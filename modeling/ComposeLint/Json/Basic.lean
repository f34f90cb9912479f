import ComposeLint.Keyed
import ComposeLint.Number.Double

/-!
# Document values

The value of a document. Numbers come in two kinds, exact integers and doubles, and the kind is
kept: `1` and `1.0` are different values. The members of an object are a list of pairs in
ascending order of their names, which `Json.Ordered` states at every depth.

`Json.at?` reads the value at the end of a list of steps; it is what a path means on a value.
-/

namespace ComposeLint

inductive Json where
  | null
  | bool (b : Bool)
  | int (n : Int)
  | double (d : Double)
  | str (s : String)
  | arr (items : List Json)
  | obj (members : List (String × Json))
  deriving Inhabited

namespace Json

def member? (name : String) : Json → Option Json
  | obj members => Keyed.get? name members
  | _ => none

def item? (index : Nat) : Json → Option Json
  | arr items => items[index]?
  | _ => none

def str? : Json → Option String
  | str s => some s
  | _ => none

def isObject : Json → Bool
  | obj _ => true
  | _ => false

mutual

/-- Every object of the value holds each name once, in ascending order. -/
def Ordered : Json → Prop
  | arr items => OrderedItems items
  | obj members => Keyed.Ascending members ∧ OrderedMembers members
  | _ => True

def OrderedItems : List Json → Prop
  | [] => True
  | item :: rest => Ordered item ∧ OrderedItems rest

def OrderedMembers : List (String × Json) → Prop
  | [] => True
  | (_, value) :: rest => Ordered value ∧ OrderedMembers rest

end

theorem orderedItems_iff {items : List Json} : OrderedItems items ↔ ∀ x ∈ items, x.Ordered := by
  induction items with
  | nil => exact iff_of_true trivial nofun
  | cons item rest ih => rw [OrderedItems, ih, List.forall_mem_cons]

theorem orderedMembers_iff {members : List (String × Json)} :
    OrderedMembers members ↔ ∀ m ∈ members, m.2.Ordered := by
  induction members with
  | nil => exact iff_of_true trivial nofun
  | cons m rest ih => rw [OrderedMembers, ih, List.forall_mem_cons]

end Json

end ComposeLint
