import ComposeLint.Json.Basic

/-!
# Reading and writing records

Types of the API are records that are read from the members of an object and written back to
them. A member is required, optional (missing or null means absent) or a list that may be
missing, and members that a record does not know are passed over. Records are written with their
members in ascending order of the names, absent members and empty lists being left out.
-/

namespace ComposeLint

class Decode (α : Type) where
  decode? : Json → Option α

class Encode (α : Type) where
  encode : α → Json

export Decode (decode?)
export Encode (encode)

instance : Decode Json := ⟨some⟩
instance : Encode Json := ⟨id⟩

instance : Decode String := ⟨Json.str?⟩
instance : Encode String := ⟨.str⟩

instance : Decode Bool where
  decode?
    | .bool b => some b
    | _ => none

/-- An integer of 64 bits; a number with a fraction or an exponent is none, whatever its value. -/
instance : Decode Int64 where
  decode?
    | .int n =>
      if Int64.minValue.toInt ≤ n ∧ n ≤ Int64.maxValue.toInt then some (Int64.ofInt n) else none
    | _ => none

instance : Encode Int64 := ⟨fun n => .int n.toInt⟩

instance {α : Type} [Decode α] : Decode (List α) where
  decode?
    | .arr items => items.mapM decode?
    | _ => none

instance {α : Type} [Encode α] : Encode (List α) := ⟨fun xs => .arr (xs.map encode)⟩

instance {α : Type} [Decode α] : Decode (Keyed String α) where
  decode?
    | .obj members => members.mapM fun (name, value) => (decode? value).map (name, ·)
    | _ => none

instance {α : Type} [Encode α] : Encode (Keyed String α) :=
  ⟨fun m => .obj (m.map fun (name, value) => (name, encode value))⟩

instance {α : Type} [Encode α] : Encode (Option α) where
  encode
    | some x => encode x
    | none => .null

namespace Member

variable {α : Type}

/-- A member that must be there. -/
def required [Decode α] (name : String) (members : Keyed String Json) : Option α :=
  (Keyed.get? name members).bind decode?

/-- A member that is absent if it is missing or null. -/
def optional [Decode α] (name : String) (members : Keyed String Json) : Option (Option α) :=
  match Keyed.get? name members with
  | none | some .null => some none
  | some value => (decode? value).map some

/-- A member with a default that stands for missing, but not for null. -/
def withDefault [Decode α] (name : String) (default : α) (members : Keyed String Json) :
    Option α :=
  match Keyed.get? name members with
  | none => some default
  | some value => decode? value

/-- A list that is empty if the member is missing. -/
def list [Decode α] (name : String) (members : Keyed String Json) : Option (List α) :=
  withDefault name [] members

/-- A member with a default that stands for missing and null alike. -/
def lenient [Decode α] (name : String) (default : α) (members : Keyed String Json) : Option α :=
  (optional name members).map (·.getD default)

def write [Encode α] (name : String) (value : α) : Keyed String Json := [(name, encode value)]

def writeOptional [Encode α] (name : String) (value : Option α) : Keyed String Json :=
  match value with
  | some value => [(name, encode value)]
  | none => []

def writeList [Encode α] (name : String) (values : List α) : Keyed String Json :=
  match values with
  | [] => []
  | values => [(name, encode values)]

end Member

/-- Reads a value that is an object by its members. -/
def Json.readMembers? {α : Type} (read : Keyed String Json → Option α) : Json → Option α
  | .obj members => read members
  | _ => none

/-- Finds the value of a finite type that a text names. -/
def Json.named? {α : Type} (name : α → String) (all : List α) : Json → Option α
  | .str s => all.find? (name · = s)
  | _ => none

end ComposeLint
