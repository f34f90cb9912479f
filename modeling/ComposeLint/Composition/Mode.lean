import ComposeLint.Composition.Basic
import ComposeLint.Finding

/-!
# Strict and loose checking

In strict mode every type that a composition refers to must have a schema. In loose mode, the
default, what cannot be checked without a schema is passed over. A composition asks for a mode by
an annotation, in which the empty text counts as missing.
-/

namespace ComposeLint

inductive Mode where
  | strict
  | loose
  deriving DecidableEq

/-- An annotation that names no mode. -/
structure ModeError where
  value : String

namespace ModeError

def message (e : ModeError) : String := "invalid composition validation mode: " ++ e.value

end ModeError

namespace Mode

def name : Mode → String
  | strict => "strict"
  | loose => "loose"

def ofName? (s : String) : Option Mode := [strict, loose].find? (·.name = s)

def annotation : String := "crossplane.io/composition-validation-mode"

def ofAnnotations (annotations : Keyed String String) : Except ModeError Mode :=
  match (Keyed.get? annotation annotations).filter (· ≠ "") with
  | none => .ok loose
  | some value =>
    match ofName? value with
    | some mode => .ok mode
    | none => .error ⟨value⟩

def ofComposition (c : Composition) : Except ModeError Mode :=
  ofAnnotations (c.metadata.annotations.getD [])

end Mode

def ModeError.finding (e : ModeError) : Finding :=
  .invalid [.field "metadata", .field "annotations", .field Mode.annotation] e.value e.message

end ComposeLint
