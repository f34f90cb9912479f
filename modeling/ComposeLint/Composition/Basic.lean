import ComposeLint.Template.Basic

/-!
# Compositions

A composition says which resources a composite resource is made of: templates for them, patches
that templates share, and functions that run after the templates. Its API version and kind are
not read, and are always written the same.
-/

namespace ComposeLint

open Member

/-- The metadata of a composition, of which every part may be missing. -/
structure Metadata where
  name : Option String
  generateName : Option String
  namespaceName : Option String
  uid : Option String
  generation : Option Int64
  labels : Option (Keyed String String)
  annotations : Option (Keyed String String)

instance : Decode Metadata where
  decode? := Json.readMembers? fun members => do
    return {
      name := ← optional "name" members
      generateName := ← optional "generateName" members
      namespaceName := ← optional "namespace" members
      uid := ← optional "uid" members
      generation := ← optional "generation" members
      labels := ← optional "labels" members
      annotations := ← optional "annotations" members }

instance : Encode Metadata where
  encode m := .obj (writeOptional "annotations" m.annotations ++
    writeOptional "generateName" m.generateName ++ writeOptional "generation" m.generation ++
    writeOptional "labels" m.labels ++ writeOptional "name" m.name ++
    writeOptional "namespace" m.namespaceName ++ writeOptional "uid" m.uid)

inductive FunctionType where
  | container
  deriving DecidableEq

namespace FunctionType

def name : FunctionType → String
  | container => "Container"

def ofName? (s : String) : Option FunctionType := [container].find? (·.name = s)

end FunctionType

/-- How a function of type `Container` is run. -/
structure ContainerSettings where
  image : String
  imagePullPolicy : Option String
  timeout : Option String

instance : Decode ContainerSettings where
  decode? := Json.readMembers? fun members => do
    return {
      image := ← required "image" members
      imagePullPolicy := ← optional "imagePullPolicy" members
      timeout := ← optional "timeout" members }

instance : Encode ContainerSettings where
  encode c := .obj (write "image" c.image ++ writeOptional "imagePullPolicy" c.imagePullPolicy ++
    writeOptional "timeout" c.timeout)

/-- A function that runs after the templates. -/
structure Function where
  name : String
  /-- Any text, as types that do not exist are findings. -/
  type : String
  container : Option ContainerSettings
  config : Option Json

instance : Decode Function where
  decode? := Json.readMembers? fun members => do
    return {
      name := ← required "name" members
      type := ← required "type" members
      container := ← optional "container" members
      config := ← optional "config" members }

instance : Encode Function where
  encode f := .obj (writeOptional "config" f.config ++ writeOptional "container" f.container ++
    write "name" f.name ++ write "type" f.type)

structure CompositionSpec where
  compositeType : TypeReference
  patchSets : List PatchSet
  resources : List Template
  functions : List Function
  secretsNamespace : Option String

instance : Decode CompositionSpec where
  decode? := Json.readMembers? fun members => do
    return {
      compositeType := ← required "compositeTypeRef" members
      patchSets := ← list "patchSets" members
      resources := ← list "resources" members
      functions := ← list "functions" members
      secretsNamespace := ← optional "writeConnectionSecretsToNamespace" members }

instance : Encode CompositionSpec where
  encode s := .obj (write "compositeTypeRef" s.compositeType ++
    writeList "functions" s.functions ++ writeList "patchSets" s.patchSets ++
    writeList "resources" s.resources ++
    writeOptional "writeConnectionSecretsToNamespace" s.secretsNamespace)

structure Composition where
  metadata : Metadata
  spec : CompositionSpec

instance : Decode Composition where
  decode? := Json.readMembers? fun members => do
    return { metadata := ← required "metadata" members, spec := ← required "spec" members }

instance : Encode Composition where
  encode c := .obj (write "apiVersion" "apiextensions.crossplane.io/v1" ++
    write "kind" "Composition" ++ write "metadata" c.metadata ++ write "spec" c.spec)

namespace Composition

/-- The name, or the text that the name will begin with. -/
def name (c : Composition) : String := (c.metadata.name.or c.metadata.generateName).getD ""

end Composition

end ComposeLint
