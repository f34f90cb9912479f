import ComposeLint.Catalog.TypeKey
import ComposeLint.Patch.Basic

/-!
# Templates

A template makes a composed resource from a base object and patches. It says which details of
the resource are passed on as connection details, and when the resource is ready.
-/

namespace ComposeLint

open Member

/-- A reference to a type by its API version and kind. -/
structure TypeReference where
  apiVersion : String
  kind : String

namespace TypeReference

instance : Decode TypeReference where
  decode? := Json.readMembers? fun members => do
    return { apiVersion := ← required "apiVersion" members, kind := ← required "kind" members }

instance : Encode TypeReference where
  encode r := .obj (write "apiVersion" r.apiVersion ++ write "kind" r.kind)

def render (r : TypeReference) : String := r.apiVersion ++ ", Kind=" ++ r.kind

def key (r : TypeReference) : TypeKey := .ofApiVersion r.apiVersion r.kind

end TypeReference

/-- Why an object has no type. -/
inductive BaseError where
  | notAnObject
  | missingField (name : String)

def BaseError.message : BaseError → String
  | notAnObject => "base object must be an object"
  | missingField name => "base object is missing \"" ++ name ++ "\""

/-- The type that an object says it has. -/
def Json.typeKey (v : Json) : Except BaseError TypeKey :=
  match v with
  | .obj members =>
    match (Keyed.get? "apiVersion" members).bind Json.str? with
    | none => .error (.missingField "apiVersion")
    | some apiVersion =>
      match (Keyed.get? "kind" members).bind Json.str? with
      | none => .error (.missingField "kind")
      | some kind => .ok (.ofApiVersion apiVersion kind)
  | _ => .error .notAnObject

inductive ConnectionDetailType where
  | fromConnectionSecretKey
  | fromFieldPath
  | fromValue
  deriving DecidableEq

namespace ConnectionDetailType

def all : List ConnectionDetailType := [fromConnectionSecretKey, fromFieldPath, fromValue]

def name : ConnectionDetailType → String
  | fromConnectionSecretKey => "FromConnectionSecretKey"
  | fromFieldPath => "FromFieldPath"
  | fromValue => "FromValue"

instance : Decode ConnectionDetailType := ⟨Json.named? name all⟩
instance : Encode ConnectionDetailType := ⟨fun t => .str t.name⟩

end ConnectionDetailType

structure ConnectionDetail where
  name : Option String
  type : Option ConnectionDetailType
  fromConnectionSecretKey : Option String
  fromFieldPath : Option String
  value : Option String

instance : Decode ConnectionDetail where
  decode? := Json.readMembers? fun members => do
    return {
      name := ← optional "name" members
      type := ← optional "type" members
      fromConnectionSecretKey := ← optional "fromConnectionSecretKey" members
      fromFieldPath := ← optional "fromFieldPath" members
      value := ← optional "value" members }

instance : Encode ConnectionDetail where
  encode d := .obj (writeOptional "fromConnectionSecretKey" d.fromConnectionSecretKey ++
    writeOptional "fromFieldPath" d.fromFieldPath ++ writeOptional "name" d.name ++
    writeOptional "type" d.type ++ writeOptional "value" d.value)

inductive ReadinessType where
  | nonEmpty
  | matchString
  | matchInteger
  | matchCondition
  | none
  deriving DecidableEq

namespace ReadinessType

def all : List ReadinessType := [nonEmpty, matchString, matchInteger, matchCondition, none]

def name : ReadinessType → String
  | nonEmpty => "NonEmpty"
  | matchString => "MatchString"
  | matchInteger => "MatchInteger"
  | matchCondition => "MatchCondition"
  | none => "None"

instance : Decode ReadinessType := ⟨Json.named? name all⟩
instance : Encode ReadinessType := ⟨fun t => .str t.name⟩

end ReadinessType

/-- A condition of a resource and the status it must have. -/
structure ConditionMatch where
  type : String
  status : String

instance : Decode ConditionMatch where
  decode? := Json.readMembers? fun members => do
    return { type := ← required "type" members, status := ← required "status" members }

instance : Encode ConditionMatch where
  encode c := .obj (write "status" c.status ++ write "type" c.type)

structure ReadinessCheck where
  type : ReadinessType
  fieldPath : Option String
  matchString : Option String
  matchInteger : Option Int64
  matchCondition : Option ConditionMatch

instance : Decode ReadinessCheck where
  decode? := Json.readMembers? fun members => do
    return {
      type := ← required "type" members
      fieldPath := ← optional "fieldPath" members
      matchString := ← optional "matchString" members
      matchInteger := ← optional "matchInteger" members
      matchCondition := ← optional "matchCondition" members }

instance : Encode ReadinessCheck where
  encode c := .obj (writeOptional "fieldPath" c.fieldPath ++
    writeOptional "matchCondition" c.matchCondition ++
    writeOptional "matchInteger" c.matchInteger ++ writeOptional "matchString" c.matchString ++
    write "type" c.type)

structure Template where
  /-- Templates of a composition either all have names or none has. -/
  name : Option String
  /-- The object that patches are applied to. -/
  base : Json
  patches : List Patch
  connectionDetails : List ConnectionDetail
  readinessChecks : List ReadinessCheck

instance : Decode Template where
  decode? := Json.readMembers? fun members => do
    return {
      name := ← optional "name" members
      base := ← required "base" members
      patches := ← list "patches" members
      connectionDetails := ← list "connectionDetails" members
      readinessChecks := ← list "readinessChecks" members }

instance : Encode Template where
  encode t := .obj (write "base" t.base ++ writeList "connectionDetails" t.connectionDetails ++
    writeOptional "name" t.name ++ writeList "patches" t.patches ++
    writeList "readinessChecks" t.readinessChecks)

end ComposeLint
