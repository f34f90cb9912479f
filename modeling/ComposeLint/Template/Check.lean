import ComposeLint.Finding
import ComposeLint.Schema.Resolve
import ComposeLint.Template.Basic

/-!
# Checking the details of a template

Connection details must read fields that exist, as far as the schema of the composed resource
tells. A readiness check must carry what its type needs; with a schema at hand, its field must
exist and not have another type than the one it is compared with.
-/

namespace ComposeLint

def Template.path (template : Nat) : Path :=
  [.field "spec", .field "resources", .index template]

def ConnectionDetail.check (d : ConnectionDetail) (path : Path) (composed : Schema) :
    Option Finding :=
  match d.fromFieldPath with
  | none => none
  | some field =>
    match composed.resolveText field with
    | .ok _ => none
    | .error e => some (.invalid (path.child "fromFieldPath") field e.message)

/-- What is wrong with a readiness check. -/
inductive ReadinessFault where
  | missingCondition
  | emptyConditionType
  | emptyConditionStatus
  | missingString
  | missingInteger
  | missingFieldPath (type : ReadinessType)
  | unresolved (field : String) (cause : ResolveError)
  | mismatch (field : String) (expected : JsonType)

/-- The finding at the check with that path. -/
def ReadinessFault.finding (path : Path) : ReadinessFault → Finding
  | missingCondition =>
    .required (path.child "matchCondition")
      "matchCondition is required for readiness checks of type MatchCondition"
  | emptyConditionType =>
    .required (Path.child (path.child "matchCondition") "type") "must not be empty"
  | emptyConditionStatus =>
    .required (Path.child (path.child "matchCondition") "status") "must not be empty"
  | missingString =>
    .required (path.child "matchString")
      "matchString is required for readiness checks of type MatchString"
  | missingInteger =>
    .required (path.child "matchInteger")
      "matchInteger is required for readiness checks of type MatchInteger"
  | missingFieldPath type =>
    .required (path.child "fieldPath")
      ("fieldPath is required for readiness checks of type " ++ type.name)
  | unresolved field cause => .invalid (path.child "fieldPath") field cause.message
  | mismatch field expected =>
    .invalid (path.child "fieldPath") field
      ("expected field path to be of type " ++ expected.name)

namespace ReadinessCheck

/-- The fault of a check that looks at a field, which is compared with a value of the expected
type if there is one. -/
def fieldFault (c : ReadinessCheck) (expected : Option JsonType) (composed : Option Schema) :
    Option ReadinessFault :=
  match c.fieldPath.filter (· ≠ "") with
  | none => some (.missingFieldPath c.type)
  | some field =>
    match composed with
    | none => none
    | some composed =>
      match composed.resolveText field with
      | .error e => some (.unresolved field e)
      | .ok found =>
        match expected, found.type with
        | some expected, some actual =>
          if expected = actual then none else some (.mismatch field expected)
        | _, _ => none

def conditionFault : Option ConditionMatch → Option ReadinessFault
  | none => some .missingCondition
  | some condition =>
    if condition.type = "" then some .emptyConditionType
    else if condition.status = "" then some .emptyConditionStatus
    else none

/-- The first thing that is wrong with a check. -/
def fault (c : ReadinessCheck) (composed : Option Schema) : Option ReadinessFault :=
  match c.type with
  | .none => none
  | .matchCondition => conditionFault c.matchCondition
  | .nonEmpty => c.fieldFault none composed
  | .matchString =>
    if (c.matchString.filter (· ≠ "")).isNone then some .missingString
    else c.fieldFault (some .string) composed
  | .matchInteger =>
    if c.matchInteger.isNone then some .missingInteger
    else c.fieldFault (some .integer) composed

end ReadinessCheck

namespace Template

/-- The findings of the connection details of the template with that index. -/
def checkConnectionDetails (t : Template) (index : Nat) (composed : Schema) : List Finding :=
  let path := Path.child (Template.path index) "connectionDetails"
  t.connectionDetails.zipIdx.filterMap fun (detail, i) => detail.check (path.item i) composed

/-- The findings of the readiness checks of the template with that index. -/
def checkReadiness (t : Template) (index : Nat) (composed : Option Schema) : List Finding :=
  let path := Path.child (Template.path index) "readinessChecks"
  t.readinessChecks.zipIdx.filterMap fun (check, i) =>
    (check.fault composed).map (ReadinessFault.finding (path.item i))

end Template

end ComposeLint
