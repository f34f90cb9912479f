import ComposeLint.Composition.Linter
import ComposeLint.Json.Form

/-!
# Admission reviews

A cluster asks in a review whether it may accept a change. A composition is admitted if a linter
finds nothing in it; a request that carries none, such as a deletion, is always admitted.
-/

namespace ComposeLint

open Member

inductive AdmissionOperation where
  | create
  | update
  | delete
  | connect
  deriving DecidableEq

namespace AdmissionOperation

def all : List AdmissionOperation := [create, update, delete, connect]

def name : AdmissionOperation → String
  | create => "CREATE"
  | update => "UPDATE"
  | delete => "DELETE"
  | connect => "CONNECT"

instance : Decode AdmissionOperation := ⟨Json.named? name all⟩

end AdmissionOperation

/-- The name of a kind of resource as it is used in addresses. -/
structure ResourceName where
  group : String
  version : String
  resource : String

instance : Decode ResourceName where
  decode? := Json.readMembers? fun members => do
    return {
      group := ← required "group" members
      version := ← required "version" members
      resource := ← required "resource" members }

structure AdmissionRequest where
  uid : String
  name : String
  kind : TypeKey
  resource : ResourceName
  operation : AdmissionOperation
  dryRun : Bool
  object : Option Composition
  oldObject : Option Composition

namespace AdmissionRequest

section Forms

open Json.Form

/-- The parts of a request that make no difference. -/
def form : Json.Form :=
  record [("namespace", text), ("requestSubResource", text), ("subResource", text)]

def userForm : Json.Form :=
  record [("extra", map (list text)), ("groups", list text), ("uid", text), ("username", text)]

end Forms

instance : Decode AdmissionRequest where
  decode? := Json.readMembers? fun members => do
    let user ← Keyed.get? "userInfo" members
    if !form.accepts (.obj members) || !userForm.accepts user then none
    else
      return {
        uid := ← required "uid" members
        name := ← withDefault "name" "" members
        kind := ← required "kind" members
        resource := ← required "resource" members
        operation := ← required "operation" members
        dryRun := ← withDefault "dryRun" false members
        object := ← optional "object" members
        oldObject := ← optional "oldObject" members }

end AdmissionRequest

/-- A request under the API version and the kind that the answer is to have. -/
structure AdmissionReview where
  apiVersion : String
  kind : String
  request : Option AdmissionRequest

instance : Decode AdmissionReview where
  decode? := Json.readMembers? fun members => do
    return {
      apiVersion := ← required "apiVersion" members
      kind := ← required "kind" members
      request := ← optional "request" members }

structure AdmissionStatus where
  message : Option String := none
  reason : Option String := none
  status : Option String := none

instance : Encode AdmissionStatus where
  encode s := .obj (writeOptional "message" s.message ++ writeOptional "reason" s.reason ++
    writeOptional "status" s.status)

structure AdmissionResponse where
  uid : String
  allowed : Bool
  status : AdmissionStatus

instance : Encode AdmissionResponse where
  encode r := .obj [("allowed", .bool r.allowed), ("status", encode r.status), ("uid", .str r.uid)]

namespace AdmissionResponse

/-- The answer to a review without a request. -/
def invalid : AdmissionResponse :=
  { uid := ""
    allowed := false
    status := {
      message := some ("failed to convert to request: " ++
        "failed to convert AdmissionReview into AdmissionRequest")
      reason := some "InvalidRequest"
      status := some "Failure" } }

end AdmissionResponse

def Linter.review (l : Linter) (request : AdmissionRequest) (schemas : SchemaLookup) :
    AdmissionResponse :=
  match request.object.elim [] (l.lint · schemas) with
  | [] => ⟨request.uid, true, {}⟩
  | findings => ⟨request.uid, false, { message := some (Finding.renderAll findings) }⟩

/-- A response under the API version and the kind of a review. -/
structure AdmissionAnswer where
  apiVersion : String
  kind : String
  response : AdmissionResponse

instance : Encode AdmissionAnswer where
  encode a := .obj (write "apiVersion" a.apiVersion ++ write "kind" a.kind ++
    write "response" a.response)

/-- The answer to a whole review, under its own API version and kind if it has a request. -/
def Linter.answer (l : Linter) (review : AdmissionReview) (schemas : SchemaLookup) :
    AdmissionAnswer :=
  match review.request with
  | some request => ⟨review.apiVersion, review.kind, l.review request schemas⟩
  | none => ⟨"admission.k8s.io/v1", "AdmissionReview", .invalid⟩

end ComposeLint
