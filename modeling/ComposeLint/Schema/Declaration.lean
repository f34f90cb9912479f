import ComposeLint.Json.Form
import ComposeLint.Schema.Basic
import ComposeLint.Text.Quoted

/-!
# Declared schemas

A schema as a resource definition declares it, and its conversion. A declaration may name a type
that does not exist. Conversion looks only where the type tells it to, at the properties and
additional properties of objects and the items of arrays, so a fault below a node of another type
goes unseen.
-/

namespace ComposeLint

structure Declaration where
  type : Option String := none
  properties : Option (List (String × Declaration)) := none
  required : List String := []
  /-- What is declared of additional properties, if anything. -/
  additional : Option (Additional Declaration) := none
  items : Items Declaration := .any
  preservesUnknown : Bool := false

inductive SchemaError where
  | unknownType (name : String)
  | property (name : String) (cause : SchemaError)
  | additionalProperties (cause : SchemaError)
  | items (cause : SchemaError)

namespace SchemaError

def message : SchemaError → String
  | unknownType name => "unknown schema type " ++ Text.quoted name
  | property name _ => "invalid schema for property " ++ Text.quoted name
  | additionalProperties _ => "invalid schema for additional properties"
  | items _ => "invalid schema for array items"

/-- The messages of the causes, outermost first. -/
def causes : SchemaError → List String
  | unknownType _ => []
  | property _ cause | additionalProperties cause | items cause => cause.message :: cause.causes

end SchemaError

namespace Declaration

/-- The distinct names of a list, in ascending order. -/
def ascending (names : List String) : List String :=
  Keyed.keys (Keyed.ofList (names.map fun name => (name, ())))

/-- What kind of node a declaration makes. -/
inductive NodeKind where
  | object (typed : Bool)
  | array
  | leaf (schema : Schema)

/-- The kind that the declared type asks for. A node without a type is an object if it declares
properties or additional properties or keeps unknown fields. -/
def nodeKind (d : Declaration) : Except SchemaError NodeKind :=
  match d.type with
  | none =>
    if d.properties.isSome || d.additional.isSome || d.preservesUnknown then .ok (.object false)
    else .ok (.leaf .unknown)
  | some name =>
    match JsonType.ofName? name with
    | some .object => .ok (.object true)
    | some .array => .ok .array
    | some type => .ok (.leaf (.scalar type))
    | none => .error (.unknownType name)

mutual

/-- Converts a declaration, properties before additional properties. -/
def toSchema : Declaration → Except SchemaError Schema
  | d@⟨_, properties, required, additional, items, preservesUnknown⟩ => do
    match ← d.nodeKind with
    | .object typed =>
      let properties ← declaredProperties properties
      let additional ← declaredAdditional additional
      let required := ascending required
      return .object { properties, required, additional, preservesUnknown, typed }
    | .array => return .array (← declaredItems items)
    | .leaf schema => return schema

def declaredProperties :
    Option (List (String × Declaration)) → Except SchemaError (List (String × Schema))
  | none => .ok []
  | some properties => propertySchemas properties

def propertySchemas : List (String × Declaration) → Except SchemaError (List (String × Schema))
  | [] => .ok []
  | (name, declaration) :: rest => do
    let schema ← (toSchema declaration).mapError (SchemaError.property name)
    return (name, schema) :: (← propertySchemas rest)

def declaredAdditional :
    Option (Additional Declaration) → Except SchemaError (Additional Schema)
  | none | some .forbidden => .ok .forbidden
  | some .allowed => .ok .allowed
  | some (.described declaration) => do
    return .described (← (toSchema declaration).mapError .additionalProperties)

def declaredItems : Items Declaration → Except SchemaError (Items Schema)
  | .any => .ok .any
  | .each declaration => do return .each (← (toSchema declaration).mapError .items)
  | .positional declarations => do
    return .positional (← (schemas declarations).mapError .items)

def schemas : List Declaration → Except SchemaError (List Schema)
  | [] => .ok []
  | declaration :: rest => do return (← toSchema declaration) :: (← schemas rest)

end

end Declaration

end ComposeLint
