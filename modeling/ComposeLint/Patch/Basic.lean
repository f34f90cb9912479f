import ComposeLint.Transform.Basic

/-!
# Patches

A patch copies a value from a field of one object to a field of another, through transforms. It
goes between the composite resource, or the environment, and a composed resource; or it stands for
the patches of a set.
-/

namespace ComposeLint

open Member

inductive PatchType where
  | fromCompositeFieldPath
  | toCompositeFieldPath
  | combineFromComposite
  | combineToComposite
  | fromEnvironmentFieldPath
  | toEnvironmentFieldPath
  | combineFromEnvironment
  | combineToEnvironment
  | patchSet
  deriving DecidableEq

namespace PatchType

def all : List PatchType :=
  [fromCompositeFieldPath, toCompositeFieldPath, combineFromComposite, combineToComposite,
    fromEnvironmentFieldPath, toEnvironmentFieldPath, combineFromEnvironment,
    combineToEnvironment, patchSet]

def name : PatchType → String
  | fromCompositeFieldPath => "FromCompositeFieldPath"
  | toCompositeFieldPath => "ToCompositeFieldPath"
  | combineFromComposite => "CombineFromComposite"
  | combineToComposite => "CombineToComposite"
  | fromEnvironmentFieldPath => "FromEnvironmentFieldPath"
  | toEnvironmentFieldPath => "ToEnvironmentFieldPath"
  | combineFromEnvironment => "CombineFromEnvironment"
  | combineToEnvironment => "CombineToEnvironment"
  | patchSet => "PatchSet"

instance : Decode PatchType := ⟨Json.named? name all⟩
instance : Encode PatchType := ⟨fun t => .str t.name⟩

/-- Whether patches of the type go between two resources that have schemas. The environment has
none, and patch sets are replaced by their patches before they are checked. -/
def isCheckable : PatchType → Bool
  | fromCompositeFieldPath | toCompositeFieldPath | combineFromComposite | combineToComposite =>
    true
  | _ => false

end PatchType

structure CombineVariable where
  fromFieldPath : String

instance : Decode CombineVariable where
  decode? := Json.readMembers? fun members => do
    return { fromFieldPath := ← required "fromFieldPath" members }

instance : Encode CombineVariable where
  encode v := .obj (write "fromFieldPath" v.fromFieldPath)

structure StringCombine where
  fmt : String

instance : Decode StringCombine where
  decode? := Json.readMembers? fun members => do return { fmt := ← required "fmt" members }

instance : Encode StringCombine where
  encode c := .obj (write "fmt" c.fmt)

/-- Several source fields that make one value. -/
structure Combine where
  sources : List CombineVariable
  /-- Any text, as strategies that do not exist are findings. -/
  strategy : String
  string : Option StringCombine

instance : Decode Combine where
  decode? := Json.readMembers? fun members => do
    return {
      sources := ← required "variables" members
      strategy := ← required "strategy" members
      string := ← optional "string" members }

instance : Encode Combine where
  encode c := .obj (write "strategy" c.strategy ++ writeOptional "string" c.string ++
    write "variables" c.sources)

inductive CombineStrategy where
  | string
  deriving DecidableEq

namespace CombineStrategy

def name : CombineStrategy → String
  | string => "string"

def ofName? (s : String) : Option CombineStrategy := [string].find? (·.name = s)

end CombineStrategy

inductive SourcePolicy where
  | optional
  | required
  deriving DecidableEq

namespace SourcePolicy

def all : List SourcePolicy := [optional, required]

def name : SourcePolicy → String
  | optional => "Optional"
  | required => "Required"

instance : Decode SourcePolicy := ⟨Json.named? name all⟩
instance : Encode SourcePolicy := ⟨fun p => .str p.name⟩

end SourcePolicy

structure PatchPolicy where
  fromFieldPath : Option SourcePolicy

instance : Decode PatchPolicy where
  decode? := Json.readMembers? fun members => do
    return { fromFieldPath := ← optional "fromFieldPath" members }

instance : Encode PatchPolicy where
  encode p := .obj (writeOptional "fromFieldPath" p.fromFieldPath)

structure Patch where
  /-- By default a patch from a field of the composite resource. -/
  type : Option PatchType
  fromFieldPath : Option String
  /-- By default the path of the source field. -/
  toFieldPath : Option String
  combine : Option Combine
  patchSetName : Option String
  transforms : List Transform
  policy : Option PatchPolicy

instance : Decode Patch where
  decode? := Json.readMembers? fun members => do
    return {
      type := ← optional "type" members
      fromFieldPath := ← optional "fromFieldPath" members
      toFieldPath := ← optional "toFieldPath" members
      combine := ← optional "combine" members
      patchSetName := ← optional "patchSetName" members
      transforms := ← list "transforms" members
      policy := ← optional "policy" members }

instance : Encode Patch where
  encode p := .obj (writeOptional "combine" p.combine ++
    writeOptional "fromFieldPath" p.fromFieldPath ++
    writeOptional "patchSetName" p.patchSetName ++ writeOptional "policy" p.policy ++
    writeOptional "toFieldPath" p.toFieldPath ++ writeList "transforms" p.transforms ++
    writeOptional "type" p.type)

namespace Patch

/-- The type, the default filled in. -/
def kind (p : Patch) : PatchType := p.type.getD .fromCompositeFieldPath

/-- Whether the patch fails if its source is missing, and so never leaves its destination unset. -/
def requiresSource (p : Patch) : Bool :=
  (p.policy.bind (·.fromFieldPath)) = some .required

end Patch

/-- Patches that several templates share, under a name. -/
structure PatchSet where
  name : String
  patches : List Patch

instance : Decode PatchSet where
  decode? := Json.readMembers? fun members => do
    return { name := ← required "name" members, patches := ← required "patches" members }

instance : Encode PatchSet where
  encode s := .obj (write "name" s.name ++ write "patches" s.patches)

end ComposeLint
