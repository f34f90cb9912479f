import ComposeLint.Json.Basic

/-!
# Types of values

The seven types a value can have. An integer fits where a number is asked for, not the other way
round.
-/

namespace ComposeLint

inductive JsonType where
  | array
  | boolean
  | integer
  | null
  | number
  | object
  | string
  deriving DecidableEq

namespace JsonType

/-- All types, in the order of their names. -/
def all : List JsonType := [array, boolean, integer, null, number, object, string]

def name : JsonType → String
  | array => "array"
  | boolean => "boolean"
  | integer => "integer"
  | null => "null"
  | number => "number"
  | object => "object"
  | string => "string"

def ofName? (s : String) : Option JsonType := all.find? (·.name = s)

theorem ofName?_eq_some_iff {s : String} {type : JsonType} :
    ofName? s = some type ↔ type.name = s := by
  constructor
  · intro h
    have hname := List.find?_some h
    exact of_decide_eq_true hname
  · rintro rfl
    cases type <;> rfl

theorem ofName?_eq_none_iff {s : String} :
    ofName? s = none ↔ ∀ type : JsonType, type.name ≠ s := by
  simp only [Option.eq_none_iff_forall_ne_some, ne_eq, ofName?_eq_some_iff]

/-- Whether a value of the first type may stand where the second is asked for. -/
def fits (a b : JsonType) : Bool := a = b || (a = integer && b = number)

theorem fits_iff {a b : JsonType} :
    a.fits b = true ↔ a = b ∨ a = integer ∧ b = number := by
  simp only [fits, Bool.or_eq_true, Bool.and_eq_true, decide_eq_true_eq]

theorem fits_refl (a : JsonType) : a.fits a = true := by simp [fits]

theorem fits_trans {a b c : JsonType} (hab : a.fits b = true) (hbc : b.fits c = true) :
    a.fits c = true := by
  cases a <;> cases b <;> cases c <;> simp_all [fits]

theorem fits_antisymm {a b : JsonType} (hab : a.fits b = true) (hba : b.fits a = true) :
    a = b := by
  cases a <;> cases b <;> simp_all [fits]

end JsonType

def Json.type : Json → JsonType
  | .null => .null
  | .bool _ => .boolean
  | .int _ => .integer
  | .double _ => .number
  | .str _ => .string
  | .arr _ => .array
  | .obj _ => .object

end ComposeLint
