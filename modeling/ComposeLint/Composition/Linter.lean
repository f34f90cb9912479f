import ComposeLint.Catalog.Basic
import ComposeLint.Composition.Mode
import ComposeLint.Composition.Render
import ComposeLint.Composition.Rules
import ComposeLint.Composition.Splice
import ComposeLint.Schema.Shape
import ComposeLint.Template.Check

/-!
# Checking a composition

A linter first applies the structural rules and resolves the references to patch sets; findings of
either stop it. Then the composition is checked against schemas, in three passes that do not stop
one another: types that have no schema, what every template says, and what a renderer makes of the
templates. Of a template's patches the second pass sees the spliced ones; the renderer is given
the template as it was declared.

Where a schema is missing, what depends on it is left out. Patches need the schemas of both the
composite and the composed resource; connection details and readiness checks need the latter.
-/

namespace ComposeLint

/-- What to check, apart from the schemas. -/
structure Linter where
  rules : List Rule := Rule.standard
  /-- Templates are rendered only if there is a renderer. -/
  renderer : Option Renderer := none
  /-- By default the mode that the composition asks for. -/
  mode : Option Mode := none

/-- The linter of the standard rules, which renders the bases of templates or nothing. -/
def Linter.standard (renders : Bool) (mode : Option Mode) : Linter :=
  { renderer := if renders then some Renderer.base else none, mode }

namespace Template

def schema? (t : Template) (schemas : SchemaLookup) : Option Schema :=
  t.base.typeKey.toOption.bind schemas

/-- The finding of a base that has no type or, in strict mode, a type that has no schema. -/
def typeFindings (t : Template) (index : Nat) (mode : Mode) (schemas : SchemaLookup) :
    List Finding :=
  match t.base.typeKey with
  | .error e => [.invalid ((Template.path index).child "base") t.base e.message]
  | .ok key =>
    match mode, schemas key with
    | .strict, none =>
      [.internal (Template.path index) ("cannot find schema for composed resource " ++
        (TypeReference.mk key.apiVersion key.kind).render)]
    | _, _ => []

/-- The findings of one patch. Without the schemas only its shape is checked. -/
def patchFindings (p : Patch) (path : Path) (composite composed : Option Schema) :
    List Finding :=
  match p.action with
  | .error e => [e.finding path]
  | .ok _ =>
    match composite, composed with
    | some composite, some composed => p.check path composite composed
    | _, _ => []

/-- The findings of what a template says, `patches` being its patches after splicing. -/
def findings (t : Template) (index : Nat) (patches : List Patch)
    (composite composed : Option Schema) : List Finding :=
  let ofPatches := patches.zipIdx.flatMap fun (p, i) =>
    patchFindings p (Patch.path index i) composite composed
  let ofDetails := composed.elim [] (t.checkConnectionDetails index)
  ofPatches ++ ofDetails ++ t.checkReadiness index composed

/-- The findings of what a renderer makes of a template. The base is to blame for all of them. -/
def renderFindings (t : Template) (index : Nat) (render : Template → Except RenderError Json)
    (composed : Schema) : List Finding :=
  let path := (Template.path index).child "base"
  match render t with
  | .error e => [.internal path e.message]
  | .ok rendered =>
    (rendered.faults composed).map fun fault => .invalid path t.base fault.render

end Template

namespace Composition

def schema? (c : Composition) (schemas : SchemaLookup) : Option Schema :=
  schemas c.spec.compositeType.key

/-- The finding, in strict mode, of a composite type that has no schema. -/
def compositeFindings (c : Composition) (mode : Mode) (schemas : SchemaLookup) : List Finding :=
  match mode, c.schema? schemas with
  | .strict, none =>
    [.internal [.field "spec", .field "compositeTypeRef"]
      ("cannot find schema for composite resource " ++ c.spec.compositeType.render)]
  | _, _ => []

def typeFindings (c : Composition) (mode : Mode) (schemas : SchemaLookup) : List Finding :=
  c.compositeFindings mode schemas ++
    c.spec.resources.zipIdx.flatMap fun (t, i) => t.typeFindings i mode schemas

def templateFindings (c : Composition) (schemas : SchemaLookup) : List Finding :=
  c.spec.resources.zipIdx.flatMap fun (t, i) =>
    t.findings i (t.effectivePatches c.spec.patchSets) (c.schema? schemas) (t.schema? schemas)

/-- The findings of rendering. Templates of a type without a schema are passed over, and so are
all of them if there is no schema to make a composite resource from. -/
def renderFindings (c : Composition) (renderer : Option Renderer) (schemas : SchemaLookup) :
    List Finding :=
  match renderer, c.schema? schemas with
  | some renderer, some composite =>
    if c.spec.functions.isEmpty then
      let render := renderer (c.stub composite)
      c.spec.resources.zipIdx.flatMap fun (t, i) =>
        (t.schema? schemas).elim [] (t.renderFindings i render)
    -- Functions may yet change what is rendered.
    else []
  | _, _ => []

/-- The findings of a composition whose references to patch sets all resolve. -/
def schemaFindings (c : Composition) (mode : Mode) (renderer : Option Renderer)
    (schemas : SchemaLookup) : List Finding :=
  c.typeFindings mode schemas ++ c.templateFindings schemas ++ c.renderFindings renderer schemas

end Composition

namespace Linter

/-- The findings that stop a linter before schemas are looked at: those of the rules or, if there
are none, those of references to patch sets. -/
def structureFindings (l : Linter) (c : Composition) : List Finding :=
  match Rule.apply l.rules c with
  | [] => c.unknownSetFindings
  | findings => findings

/-- The mode that is given or, by default, the one that the composition asks for. -/
def modeFor (l : Linter) (c : Composition) : Except ModeError Mode :=
  (l.mode.map Except.ok).getD (Mode.ofComposition c)

/-- All findings, in the order in which they are reported. -/
def lint (l : Linter) (c : Composition) (schemas : SchemaLookup) : List Finding :=
  match l.modeFor c with
  | .error e => [e.finding]
  | .ok mode =>
    match l.structureFindings c with
    | [] => c.schemaFindings mode l.renderer schemas
    | findings => findings

end Linter

end ComposeLint
