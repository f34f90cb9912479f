import ComposeLint.Composition.Basic
import ComposeLint.Patch.Action
import ComposeLint.Text.Quoted

/-!
# Structural rules

Rules that a composition must obey whatever the schemas of its resources are. Every rule gives
its findings, and those of a list of rules are given in the order of the rules.
-/

namespace ComposeLint

abbrev Rule := Composition → List Finding

namespace Rule

def resourcesPath : Path := [.field "spec", .field "resources"]

/-- The positions, in ascending order, of the names that stood at a smaller position already. -/
def repeated (names : List (Option String)) : List (Nat × String) :=
  names.zipIdx.filterMap fun (name, i) =>
    match name with
    | some s => if (names.take i).contains (some s) then some (i, s) else none
    | none => none

def templateNames (c : Composition) : List (Option String) := c.spec.resources.map (·.name)

/-- Templates must all have names, or none of them. -/
def allOrNoneNamed : Rule := fun c =>
  let names := templateNames c
  if names.any Option.isSome && names.any Option.isNone then
    [.invalid resourcesPath names
      ("cannot mix named and anonymous resource templates - " ++
        "ensure all resource templates are named")]
  else []

def distinctNames : Rule := fun c =>
  (repeated (templateNames c)).map fun (i, name) =>
    .duplicate ((resourcesPath.item i).child "name") name
      "resource template names must be unique within their Composition"

/-- Functions know templates by their names, so templates must have names if there are
functions. -/
def namedForFunctions : Rule := fun c =>
  if c.spec.functions.isEmpty then []
  else
    (templateNames c).zipIdx.filterMap fun (name, i) =>
      match name with
      | some _ => none
      | none => some (.invalid ((resourcesPath.item i).child "name") Json.null
          ("cannot use functions with anonymous resource templates - " ++
            "ensure all resource templates are named"))

def functionFinding (path : Path) (f : Function) : Option Finding :=
  match FunctionType.ofName? f.type with
  | none =>
    some (.invalid (path.child "type") f.type ("unknown function type " ++ Text.quoted f.type))
  | some .container =>
    if f.container.isNone then
      some (.required (path.child "container")
        "functions of type: Container must specify container configuration")
    else none

/-- Functions must be of a type that exists, and have the configuration that it needs. -/
def completeFunctions : Rule := fun c =>
  c.spec.functions.zipIdx.filterMap fun (f, i) =>
    functionFinding [.field "spec", .field "functions", .index i] f

/-- What is wrong with the patch of a set, the patch being at that path. -/
def setPatchFinding (path : Path) (p : Patch) : Option Finding :=
  if p.kind = .patchSet then
    some (.invalid (path.child "type") PatchType.patchSet "cannot nest patch sets")
  else
    match p.action with
    | .ok _ => none
    | .error e => some (e.finding path)

def patchesFindings (path : Path) (set : PatchSet) : List Finding :=
  set.patches.zipIdx.filterMap fun (p, i) => setPatchFinding ((path.child "patches").item i) p

/-- Patch sets must have distinct names, and hold complete patches, none of which stands for
another set. -/
def soundPatchSets : Rule := fun c =>
  let names := c.spec.patchSets.map (·.name)
  c.spec.patchSets.zipIdx.flatMap fun (set, i) =>
    let path : Path := [.field "spec", .field "patchSets", .index i]
    let duplicates :=
      if (names.take i).contains set.name then
        [Finding.duplicate (path.child "name") set.name
          "patch set names must be unique within their Composition"]
      else []
    duplicates ++ patchesFindings path set

def someResource : Rule := fun c =>
  if c.spec.resources.isEmpty then [.required resourcesPath "at least one resource is required"]
  else []

/-- The rules that every composition must obey. -/
def standard : List Rule :=
  [allOrNoneNamed, distinctNames, namedForFunctions, completeFunctions, soundPatchSets]

def apply (rules : List Rule) (c : Composition) : List Finding := rules.flatMap fun rule => rule c

end Rule

end ComposeLint
