import ComposeLint.Composition.Basic
import ComposeLint.Finding
import ComposeLint.Patch.Check
import ComposeLint.Text.Quoted

/-!
# Splicing patch sets

A patch that names a set stands for the patches of the first set of that name. Splicing puts them
in its place. A patch that should name a set and does not is no reference, and stays.
-/

namespace ComposeLint

/-- The name of the set that a patch stands for. -/
def Patch.reference? (p : Patch) : Option String :=
  match p.action with
  | .ok (.splice name) => some name
  | _ => none

def PatchSet.find? (name : String) (sets : List PatchSet) : Option PatchSet :=
  sets.find? (·.name = name)

/-- The patches that a patch stands for. A reference to a set that does not exist stands for
none. -/
def Patch.splice (sets : List PatchSet) (p : Patch) : List Patch :=
  match p.reference? with
  | none => [p]
  | some name => (PatchSet.find? name sets).elim [] (·.patches)

/-- The name of the set that a patch stands for, if there is no such set. -/
def Patch.unknownSet? (sets : List PatchSet) (p : Patch) : Option String :=
  p.reference?.filter fun name => (PatchSet.find? name sets).isNone

/-- The finding of a patch, given its path, that names a set that does not exist. -/
def PatchSet.unknownFinding (patch : Path) (name : String) : Finding :=
  .invalid (patch.child "patchSetName") name ("cannot find patch set " ++ Text.quoted name)

namespace Template

/-- The patches of a template, those of the sets in the places of the references. -/
def effectivePatches (t : Template) (sets : List PatchSet) : List Patch :=
  t.patches.flatMap (Patch.splice sets)

def splice (sets : List PatchSet) (t : Template) : Template :=
  { t with patches := t.effectivePatches sets }

/-- The finding of the first patch that names a set that does not exist. -/
def unknownSetFinding (sets : List PatchSet) (t : Template) (index : Nat) : Option Finding :=
  t.patches.zipIdx.findSome? fun (p, i) =>
    (p.unknownSet? sets).map (PatchSet.unknownFinding (Patch.path index i))

end Template

namespace Composition

/-- The composition with the patches of its sets in the places where they are used. -/
def splice (c : Composition) : Composition :=
  { c with
    spec := { c.spec with
      resources := c.spec.resources.map (Template.splice c.spec.patchSets)
      patchSets := [] } }

/-- At most one finding for each template. -/
def unknownSetFindings (c : Composition) : List Finding :=
  c.spec.resources.zipIdx.filterMap fun (t, i) => t.unknownSetFinding c.spec.patchSets i

end Composition

end ComposeLint
