import ComposeLint.Finding
import ComposeLint.Patch.Basic

/-!
# What a patch does

The action of a patch holds the fields that its type needs: a source and a destination, several
sources and a destination, or the name of a set. A patch that lacks one of them is malformed and
has no action. Empty texts count as missing.
-/

namespace ComposeLint

/-- Between which objects, and in which direction, a value goes. -/
inductive Direction where
  | fromComposite
  | toComposite
  | fromEnvironment
  | toEnvironment
  deriving DecidableEq

inductive PatchAction where
  | copy (direction : Direction) (source destination : String)
  | combine (direction : Direction) (combine : Combine) (destination : String)
  | splice (patchSet : String)

inductive PatchError where
  | missingSource (type : PatchType)
  | missingDestination (type : PatchType)
  | missingCombine (type : PatchType)
  | missingVariables
  | missingPatchSetName

namespace PatchError

def message : PatchError → String
  | missingSource type => "fromFieldPath is required by type " ++ type.name
  | missingDestination type => "toFieldPath is required by type " ++ type.name
  | missingCombine type => "combine is required by type " ++ type.name
  | missingVariables => "combine requires at least one variable"
  | missingPatchSetName => "patchSetName is required by type PatchSet"

/-- The field that is missing, from the patch on. -/
def field : PatchError → Path
  | missingSource _ => .root "fromFieldPath"
  | missingDestination _ => .root "toFieldPath"
  | missingCombine _ => .root "combine"
  | missingVariables => Path.child (.root "combine") "variables"
  | missingPatchSetName => .root "patchSetName"

def finding (e : PatchError) (patch : Path) : Finding :=
  .required (patch ++ e.field) e.message

end PatchError

/-- A text that is there and not empty. -/
def Patch.nonEmpty (value : Option String) : Option String := value.filter (· ≠ "")

theorem Patch.nonEmpty_eq_some_iff {value : Option String} {text : String} :
    nonEmpty value = some text ↔ value = some text ∧ text ≠ "" := by
  simp [nonEmpty, Option.filter_eq_some_iff]

theorem Patch.nonEmpty_eq_none_iff {value : Option String} :
    nonEmpty value = none ↔ value = none ∨ value = some "" := by
  cases value <;> simp [nonEmpty, Option.filter_eq_none_iff]

inductive PatchType.Shape where
  | copy (direction : Direction)
  | combine (direction : Direction)
  | splice

def PatchType.shape : PatchType → PatchType.Shape
  | fromCompositeFieldPath => .copy .fromComposite
  | toCompositeFieldPath => .copy .toComposite
  | fromEnvironmentFieldPath => .copy .fromEnvironment
  | toEnvironmentFieldPath => .copy .toEnvironment
  | combineFromComposite => .combine .fromComposite
  | combineToComposite => .combine .toComposite
  | combineFromEnvironment => .combine .fromEnvironment
  | combineToEnvironment => .combine .toEnvironment
  | patchSet => .splice

def Patch.action (p : Patch) : Except PatchError PatchAction :=
  match p.kind.shape with
  | .copy direction =>
    match nonEmpty p.fromFieldPath with
    | none => .error (.missingSource p.kind)
    | some source => .ok (.copy direction source ((nonEmpty p.toFieldPath).getD source))
  | .combine direction =>
    match p.combine with
    | none => .error (.missingCombine p.kind)
    | some combine =>
      if combine.sources.isEmpty then .error .missingVariables
      else
        match nonEmpty p.toFieldPath with
        | none => .error (.missingDestination p.kind)
        | some destination => .ok (.combine direction combine destination)
  | .splice =>
    match nonEmpty p.patchSetName with
    | none => .error .missingPatchSetName
    | some name => .ok (.splice name)

end ComposeLint
