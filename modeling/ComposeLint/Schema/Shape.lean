import ComposeLint.Path.Printer
import ComposeLint.Schema.Basic

/-!
# The shape of a value

A value is compared with a schema node by node: its type, the names that must be present and the
members that are not declared. Each fault carries the path of the place it is found at. At the
root the members that every object has, `apiVersion`, `kind` and `metadata`, need not be declared.
-/

namespace ComposeLint

/-- What is wrong at a place of a value. -/
inductive ShapeFault.Cause where
  | mismatch (expected actual : JsonType)
  | missing
  | undeclared

structure ShapeFault where
  path : Path
  cause : ShapeFault.Cause

namespace ShapeFault

def Cause.message : Cause → String
  | mismatch expected actual => "expected " ++ expected.name ++ ", got " ++ actual.name
  | missing => "Required value"
  | undeclared => "field not declared in schema"

def render (f : ShapeFault) : String :=
  (if f.path = [] then "<root>" else f.path.render) ++ ": " ++ f.cause.message

end ShapeFault

/-- The members that every object has, whether its schema declares them or not. -/
def ObjectShape.implicitRootMembers : List String := ["apiVersion", "kind", "metadata"]

namespace ObjectShape

/-- The rule for a member of the object at a path. -/
def ruleAt (shape : ObjectShape Schema) (path : Path) (name : String) : MemberRule :=
  match shape.rule name with
  | .declared schema => .declared schema
  | rule => if path = [] ∧ name ∈ implicitRootMembers then .free else rule

/-- The faults of required names that are not there. -/
def missingFaults (shape : ObjectShape Schema) (members : List (String × Json)) (path : Path) :
    List ShapeFault :=
  (shape.required.filter fun name => !Keyed.contains name members).map fun name =>
    ⟨path.child name, .missing⟩

end ObjectShape

namespace Json

mutual

/-- The faults of a value that stands at a path, required names before members. -/
def faultsAt (v : Json) (schema : Schema) (path : Path) : List ShapeFault :=
  match schema with
  | .unknown => []
  | .scalar expected =>
    if v.type.fits expected then [] else [⟨path, .mismatch expected v.type⟩]
  | .array items =>
    match v with
    | .arr values => itemFaults values items 0 path
    | v => [⟨path, .mismatch .array v.type⟩]
  | .object shape =>
    match v with
    | .obj members => shape.missingFaults members path ++ memberFaults members shape path
    | v => if shape.typed then [⟨path, .mismatch .object v.type⟩] else []

/-- The faults of the items from a position on. -/
def itemFaults (values : List Json) (items : Items Schema) (index : Nat) (path : Path) :
    List ShapeFault :=
  match values with
  | [] => []
  | value :: rest =>
    (match items.at? index with
      | some schema => faultsAt value schema (path.item index)
      | none => []) ++ itemFaults rest items (index + 1) path

def memberFaults (members : List (String × Json)) (shape : ObjectShape Schema) (path : Path) :
    List ShapeFault :=
  match members with
  | [] => []
  | (name, value) :: rest =>
    (match shape.ruleAt path name with
      | .declared schema | .described schema => faultsAt value schema (path.child name)
      | .free => []
      | .forbidden => [⟨path.child name, .undeclared⟩]) ++ memberFaults rest shape path

end

def faults (v : Json) (schema : Schema) : List ShapeFault := v.faultsAt schema []

end Json

end ComposeLint
