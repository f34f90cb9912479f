import ComposeLint.Composition.Basic
import ComposeLint.Schema.Stub

/-!
# Rendering

A renderer makes a composed resource from its template, for a composite resource. What composite
resource it will be is not known, so a stub of the composite type takes its place.
-/

namespace ComposeLint

structure RenderError where
  reason : String

def RenderError.message (e : RenderError) : String :=
  "cannot render composed resource: " ++ e.reason

/-- Makes a composed resource for a composite resource. -/
abbrev Renderer := (composite : Json) → Template → Except RenderError Json

/-- Renders the base as it is, no patches applied. -/
def Renderer.base : Renderer := fun _ t =>
  if t.base.isObject then .ok t.base else .error ⟨"base must be an object"⟩

/-- A composite resource with placeholders for all that its schema requires. -/
def Composition.stub (c : Composition) (composite : Schema) : Json :=
  match composite.placeholder with
  | .obj members =>
    .obj (Keyed.extend members
      [("apiVersion", .str c.spec.compositeType.apiVersion),
        ("kind", .str c.spec.compositeType.kind),
        ("metadata", .obj [("name", .str "validation-composite")])])
  | v => v

end ComposeLint
