import ComposeLint.Json.Basic

/-!
# Paths

A path is a list of segments, each the name of a member or the position of an item. The value
at a path is found by following its segments from the root of a document.
-/

namespace ComposeLint

inductive Segment where
  | field (name : String)
  | index (n : Nat)
  deriving DecidableEq, Inhabited

namespace Segment

def field? : Segment → Option String
  | field name => some name
  | index _ => none

def index? : Segment → Option Nat
  | field _ => none
  | index n => some n

/-- Fields before indexes, fields by name and indexes by number. -/
def le : Segment → Segment → Bool
  | field a, field b => a ≤ b
  | field _, index _ => true
  | index _, field _ => false
  | index a, index b => a ≤ b

end Segment

abbrev Path := List Segment

namespace Path

/-- The path of a member of a document. -/
def root (name : String) : Path := [.field name]

def child (path : Path) (name : String) : Path := path ++ [.field name]

def item (path : Path) (index : Nat) : Path := path ++ [.index index]

end Path

def Json.step? (v : Json) : Segment → Option Json
  | .field name => v.member? name
  | .index n => v.item? n

def Json.at? (v : Json) : Path → Option Json
  | [] => some v
  | segment :: rest => (v.step? segment).bind (·.at? rest)

theorem Json.at?_append (v : Json) (p q : Path) : v.at? (p ++ q) = (v.at? p).bind (·.at? q) := by
  induction p generalizing v with
  | nil => rfl
  | cons segment rest ih =>
      rw [List.cons_append, Json.at?, Json.at?]
      cases v.step? segment with
      | none => rfl
      | some x => exact ih x

end ComposeLint
