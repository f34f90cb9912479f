import ComposeLint.Json.Codec

/-!
# Keys of resource types

A resource type is known by its group, its version and its kind. An API version names a group and
a version with a slash between them, or a version of the core group, whose name is empty.
-/

namespace ComposeLint

structure TypeKey where
  group : String
  version : String
  kind : String
  deriving DecidableEq

namespace TypeKey

instance : Decode TypeKey where
  decode? := Json.readMembers? fun members => do
    return {
      group := ← Member.required "group" members
      version := ← Member.required "version" members
      kind := ← Member.required "kind" members }

/-- Keys are ordered by group, then version, then kind. -/
instance : LT TypeKey where
  lt a b :=
    a.group < b.group ∨ a.group = b.group ∧
      (a.version < b.version ∨ a.version = b.version ∧ a.kind < b.kind)

instance : DecidableLT TypeKey := fun a b =>
  inferInstanceAs (Decidable (a.group < b.group ∨ a.group = b.group ∧
    (a.version < b.version ∨ a.version = b.version ∧ a.kind < b.kind)))

theorem lt_iff {a b : TypeKey} :
    a < b ↔ a.group < b.group ∨ a.group = b.group ∧
      (a.version < b.version ∨ a.version = b.version ∧ a.kind < b.kind) := Iff.rfl

instance : Std.Irrefl (α := TypeKey) (· < ·) where
  irrefl a h := by
    rcases lt_iff.mp h with h | ⟨-, h | ⟨-, h⟩⟩ <;> exact Std.lt_irrefl h

instance : Trans (α := TypeKey) (· < ·) (· < ·) (· < ·) where
  trans hab hbc := by
    rw [lt_iff] at *
    grind

instance : Std.Trichotomous (α := TypeKey) (· < ·) where
  trichotomous a b hab hba := by
    rw [lt_iff] at *
    obtain ⟨ag, av, ak⟩ := a
    obtain ⟨bg, bv, bk⟩ := b
    grind

/-- Splits an API version at its first slash. -/
def ofApiVersion (apiVersion kind : String) : TypeKey :=
  let cs := apiVersion.toList
  match cs.dropWhile (· ≠ '/') with
  | [] => ⟨"", apiVersion, kind⟩
  | _ :: version => ⟨String.ofList (cs.takeWhile (· ≠ '/')), String.ofList version, kind⟩

def apiVersion (k : TypeKey) : String :=
  if k.group = "" then k.version else k.group ++ "/" ++ k.version

end TypeKey

end ComposeLint
