import ComposeLint.Json.Codec
import ComposeLint.Json.Printer
import ComposeLint.Path.Printer

/-!
# Findings

What is wrong with a document, and where. A finding points at a field by its path, says of what
kind the problem is, and may hold the offending value. An internal finding is caused by the
environment, such as a schema that cannot be found, and not by the document.
-/

namespace ComposeLint

inductive Finding.Kind where
  | invalid
  | duplicate
  | required
  | internal
  deriving DecidableEq

structure Finding where
  kind : Finding.Kind
  path : Path
  badValue : Option Json
  detail : String

namespace Finding

def Kind.message : Kind → String
  | invalid => "Invalid value"
  | duplicate => "Duplicate value"
  | required => "Required value"
  | internal => "Internal error"

variable {α : Type} [Encode α]

def invalid (path : Path) (value : α) (detail : String) : Finding :=
  ⟨.invalid, path, some (encode value), detail⟩

def duplicate (path : Path) (value : α) (detail : String) : Finding :=
  ⟨.duplicate, path, some (encode value), detail⟩

def required (path : Path) (detail : String) : Finding := ⟨.required, path, none, detail⟩

def internal (path : Path) (detail : String) : Finding := ⟨.internal, path, none, detail⟩

/-- The path, the kind, the value if there is one and the detail if it is not empty. -/
def render (f : Finding) : String :=
  f.path.render ++ ": " ++ f.kind.message ++
    (match f.badValue with
      | some value => ": " ++ value.render
      | none => "") ++
    if f.detail = "" then "" else ": " ++ f.detail

def renderAll (fs : List Finding) : String := ", ".intercalate (fs.map render)

end Finding

end ComposeLint
