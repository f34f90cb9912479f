import ComposeLint.Schema.Declaration

/-!
# Reading a declared schema

A declaration is an object. The keys that say something about types are read, the other keys
that are known must have the form they are known to have, and the rest is passed over. A key
with the value null counts as missing.
-/

namespace ComposeLint.Declaration

open Json.Form in
/-- The known keys that say nothing about types, and hold no schemas. -/
def otherKeys : Json.Form :=
  record
    [("$ref", text), ("$schema", text), ("description", text),
      ("enum", list any), ("exclusiveMaximum", flag), ("exclusiveMinimum", flag),
      ("externalDocs", record [("description", text), ("url", text)]),
      ("format", text), ("id", text),
      ("maxItems", integer), ("maxLength", integer), ("maxProperties", integer),
      ("maximum", number), ("minItems", integer), ("minLength", integer),
      ("minProperties", integer), ("minimum", number), ("multipleOf", number),
      ("nullable", flag), ("pattern", text), ("title", text), ("uniqueItems", flag),
      ("x-kubernetes-embedded-resource", flag), ("x-kubernetes-int-or-string", flag),
      ("x-kubernetes-list-map-keys", list text), ("x-kubernetes-list-type", text),
      ("x-kubernetes-map-type", text),
      ("x-kubernetes-validations",
        list (record
          [("fieldPath", text), ("message", text), ("messageExpression", text),
            ("optionalOldSelf", flag), ("reason", text), ("rule", text)]))]

mutual

def read? : Json → Option Declaration
  | .obj members => if otherKeys.accepts (.obj members) then readKeys members {} else none
  | _ => none

def readKeys : List (String × Json) → Declaration → Option Declaration
  | [], d => some d
  | (key, value) :: rest, d => do readKeys rest (← readKey key value d)

/-- Reads the value of one key into a declaration. -/
def readKey (key : String) (value : Json) (d : Declaration) : Option Declaration :=
  match value with
  | .null => some d
  | .bool b =>
    match key with
    | "additionalProperties" =>
      some { d with additional := some (if b then .allowed else .forbidden) }
    | "x-kubernetes-preserve-unknown-fields" => some { d with preservesUnknown := b }
    | "additionalItems" => some d
    | key => if isRead key then none else some d
  | .str s =>
    match key with
    | "type" => some { d with type := some s }
    | key => if isRead key then none else some d
  | .arr values =>
    match key with
    | "required" => do return { d with required := ← values.mapM Json.str? }
    | "items" => do return { d with items := .positional (← readItems values) }
    | "allOf" | "anyOf" | "oneOf" => (readItems values).map fun _ => d
    | key => if isRead key then none else some d
  | .obj members =>
    match key with
    | "properties" => do return { d with properties := some (← readMap members) }
    | "additionalProperties" => do
      return { d with additional := some (.described (← whole members)) }
    | "items" => do return { d with items := .each (← whole members) }
    | "additionalItems" | "not" => (whole members).map fun _ => d
    | "definitions" | "patternProperties" => (readMap members).map fun _ => d
    | "dependencies" => (readDependencies members).map fun _ => d
    | key => if isRead key then none else some d
  | .int _ | .double _ => if isRead key then none else some d
where
  /-- The keys whose values are looked at here. -/
  isRead (key : String) : Bool :=
    ["additionalItems", "additionalProperties", "allOf", "anyOf", "definitions", "dependencies",
      "items", "not", "oneOf", "patternProperties", "properties", "required", "type",
      "x-kubernetes-preserve-unknown-fields"].contains key
  whole (members : List (String × Json)) : Option Declaration :=
    if otherKeys.accepts (.obj members) then readKeys members {} else none

def readItems : List Json → Option (List Declaration)
  | [] => some []
  | value :: rest => do return (← read? value) :: (← readItems rest)

def readMap : List (String × Json) → Option (List (String × Declaration))
  | [] => some []
  | (name, value) :: rest => do return (name, ← read? value) :: (← readMap rest)

/-- Whether all values of an object are schemas or lists of texts. -/
def readDependencies : List (String × Json) → Option Unit
  | [] => some ()
  | (_, value) :: rest => do
    match value with
    | .arr names => discard (names.mapM Json.str?)
    | value => discard (read? value)
    readDependencies rest

end

instance : Decode Declaration := ⟨read?⟩

end ComposeLint.Declaration
