import ComposeLint.Json.Type
import ComposeLint.Keyed

/-!
# Schemas

What is known of the values that may stand at a place of a document. An object schema declares
properties and says which must be present and what becomes of members it does not declare. A
node that declares no type is an untyped object if it has any of the features of one, and
unknown otherwise: of both, the type of a value is not known.
-/

namespace ComposeLint

/-- What an object schema says of members that it does not declare. -/
inductive Additional (σ : Type) where
  | forbidden
  | allowed
  | described (schema : σ)

/-- What an array schema says of its items: nothing, one schema for all, or one for each of the
first positions. -/
inductive Items (σ : Type) where
  | any
  | each (schema : σ)
  | positional (schemas : List σ)

structure ObjectShape (σ : Type) where
  /-- The declared properties, in ascending order of their names. -/
  properties : List (String × σ) := []
  /-- The names that must be present, in ascending order. -/
  required : List String := []
  additional : Additional σ := .forbidden
  /-- Whether undeclared members are kept whatever they are. -/
  preservesUnknown : Bool := false
  /-- Whether the type `object` was declared. -/
  typed : Bool := false

inductive Schema where
  | object (shape : ObjectShape Schema)
  | array (items : Items Schema)
  | scalar (type : JsonType)
  | unknown

namespace Schema

/-- The type of the values of a schema, if it declares one. -/
def type? : Schema → Option JsonType
  | object shape => if shape.typed then some .object else none
  | array _ => some .array
  | scalar type => some type
  | unknown => none

def typeName (s : Schema) : String := (s.type?.map JsonType.name).getD "untyped"

end Schema

inductive MemberRule where
  /-- A declared property. -/
  | declared (schema : Schema)
  /-- An undeclared member that has a schema all the same. -/
  | described (schema : Schema)
  /-- An undeclared member that may be anything. -/
  | free
  | forbidden

namespace ObjectShape

/-- The rule for a member: declarations first, then members that are kept unseen, then the
schema of additional members. -/
def rule (shape : ObjectShape Schema) (name : String) : MemberRule :=
  match Keyed.get? name shape.properties with
  | some schema => .declared schema
  | none =>
    if shape.preservesUnknown then .free
    else
      match shape.additional with
      | .allowed => .free
      | .described schema => .described schema
      | .forbidden => .forbidden

def requires (shape : ObjectShape Schema) (name : String) : Bool := shape.required.contains name

end ObjectShape

def Items.at? (items : Items Schema) (index : Nat) : Option Schema :=
  match items with
  | .any => none
  | .each schema => some schema
  | .positional schemas => schemas[index]?

namespace Schema

/-- An object that maps any name to a text. -/
def textMap : Schema := object { additional := .described (scalar .string), typed := true }

/-- The metadata that every object has. What the schema of a type says of it, if anything, is not
consulted. -/
def metadata : Schema :=
  object
    { properties :=
        [("annotations", textMap), ("labels", textMap), ("name", scalar .string),
          ("namespace", scalar .string), ("uid", scalar .string)]
      additional := .allowed
      typed := true }

end Schema

end ComposeLint
