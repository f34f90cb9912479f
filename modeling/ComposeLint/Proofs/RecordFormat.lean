import ComposeLint.Json.Codec
import ComposeLint.Proofs.Outcomes

/-!
# Records, written and read again

A record is written as a list of members under distinct names, and each reader
looks up its own name. So a record comes back if each of its members does, and a
member comes back if its value does and the form of the member does not lose it: an
optional member must not be written as null, which would read as absent, and a list
may be left out if it is empty.

The readers of members are brought to the form of a look-up and a reading of what
was found, `readOptional` and `readList`, and the writers to what a look-up finds.
After that a record whose members all come back is a matter of simplification, with
the members of `Lossless` types known to the simplifier. In the other direction,
what was read of a member was read of some value.
-/

namespace ComposeLint

/-- A type of which every value comes back from what is written of it, also as an
optional member. -/
class Lossless (α : Type) [Decode α] [Encode α] : Prop where
  decode?_encode : ∀ x : α, decode? (encode x) = some x
  encode_ne_null : ∀ x : α, encode x ≠ .null

attribute [simp] Lossless.decode?_encode Keyed.get?_append

/-- A value stands for itself. It is not `Lossless`, as null is a value. -/
@[simp] theorem decode?_encode_json (v : Json) : decode? (encode v) = some v := rfl

/-- The values of a finite type have names of their own. -/
theorem lossless_of_names {α : Type} [Decode α] [Encode α] {name : α → String}
    {all : List α} (hdecode : (decode? : Json → Option α) = Json.named? name all)
    (hencode : ∀ x : α, encode x = .str (name x))
    (hnames : ∀ x, all.find? (name · = name x) = some x) : Lossless α where
  decode?_encode x := by
    rw [hdecode, hencode, Json.named?, hnames]
  encode_ne_null x := by
    rw [hencode]
    nofun

section Records

variable {α : Type} [Decode α] {read : Keyed String Json → Option α}

theorem exists_members_of_decode? {v : Json} {x : α}
    (hdecode : (decode? : Json → Option α) = Json.readMembers? read)
    (h : decode? v = some x) : ∃ members, read members = some x := by
  rw [hdecode] at h
  cases v with
  | obj members => exact ⟨members, h⟩
  | _ => cases h

variable [Encode α]

/-- A record comes back from its members. -/
theorem decode?_encode_of_members {x : α} {members : Keyed String Json}
    (hdecode : (decode? : Json → Option α) = Json.readMembers? read)
    (hencode : encode x = .obj members) (hmembers : read members = some x) :
    decode? (encode x) = some x := by
  rw [hdecode, hencode, Json.readMembers?, hmembers]

theorem lossless_of_members {write : α → Keyed String Json}
    (hdecode : (decode? : Json → Option α) = Json.readMembers? read)
    (hencode : ∀ x : α, encode x = .obj (write x))
    (hmembers : ∀ x, read (write x) = some x) : Lossless α where
  decode?_encode x := decode?_encode_of_members hdecode (hencode x) (hmembers x)
  encode_ne_null x := by
    rw [hencode]
    nofun

end Records

/-! ## Lists and maps -/

section

variable {α : Type} [Decode α]

/-- What holds of all that is read holds of the items of a list that is read. -/
theorem forall_of_decode?_list {P : α → Prop} (hread : ∀ v x, decode? v = some x → P x)
    {v : Json} {xs : List α} (h : decode? v = some xs) : ∀ x ∈ xs, P x := by
  cases v with
  | arr items =>
      have hitems := mapM_eq_some_iff.mp h
      intro x hx
      have hmem : some x ∈ items.map decode? := by
        rw [hitems]
        exact List.mem_map_of_mem hx
      obtain ⟨item, -, hitem⟩ := List.mem_map.mp hmem
      exact hread item x hitem
  | _ => cases h

variable [Encode α]

theorem decode?_encode_list {xs : List α} (h : ∀ x ∈ xs, decode? (encode x) = some x) :
    decode? (encode xs) = some xs := by
  simp only [decode?, encode]
  rw [mapM_eq_some_iff, List.map_map]
  exact List.map_congr_left h

theorem decode?_encode_keyed {m : Keyed String α}
    (h : ∀ p ∈ m, decode? (encode p.2) = some p.2) : decode? (encode m) = some m := by
  simp only [decode?, encode]
  rw [mapM_eq_some_iff, List.map_map]
  refine List.map_congr_left fun p hp => ?_
  simp [h p hp]

instance [Lossless α] : Lossless (List α) where
  decode?_encode _ := decode?_encode_list fun x _ => Lossless.decode?_encode x
  encode_ne_null _ := nofun

instance [Lossless α] : Lossless (Keyed String α) where
  decode?_encode _ := decode?_encode_keyed fun p _ => Lossless.decode?_encode p.2
  encode_ne_null _ := nofun

end

instance : Lossless (Keyed String Json) where
  decode?_encode _ := decode?_encode_keyed fun p _ => decode?_encode_json p.2
  encode_ne_null _ := nofun

/-! ## Texts and numbers -/

instance : Lossless String where
  decode?_encode _ := rfl
  encode_ne_null _ := nofun

instance : Lossless Int64 where
  decode?_encode n := by
    simp only [decode?, encode]
    rw [if_pos ⟨Int64.minValue_le_toInt n, Int64.toInt_le n⟩, Int64.ofInt_toInt]
  encode_ne_null _ := nofun

/-! ## Members -/

namespace Member

section Reading

variable {α : Type} [Decode α]

/-- What an optional member gives, of what was found under its name. -/
def readOptional : Option Json → Option (Option α)
  | none | some .null => some none
  | some value => (decode? value).map some

/-- What a list gives, of what was found under its name. -/
def readList : Option Json → Option (List α)
  | none => some []
  | some value => decode? value

@[simp] theorem required_eq (name : String) (members : Keyed String Json) :
    (required name members : Option α) = (Keyed.get? name members).bind decode? := rfl

@[simp] theorem optional_eq (name : String) (members : Keyed String Json) :
    (optional name members : Option (Option α)) =
      readOptional (Keyed.get? name members) := rfl

@[simp] theorem list_eq (name : String) (members : Keyed String Json) :
    (list name members : Option (List α)) = readList (Keyed.get? name members) := rfl

theorem readOptional_eq_some_some_iff {found : Option Json} {x : α} :
    readOptional found = some (some x) ↔
      ∃ value, found = some value ∧ value ≠ .null ∧ decode? value = some x := by
  match found with
  | none => simp [readOptional]
  | some value => cases value <;> simp [readOptional]

theorem forall_of_readOptional {P : α → Prop} (hread : ∀ v x, decode? v = some x → P x)
    {found : Option Json} {x : Option α} (h : readOptional found = some x) :
    ∀ y ∈ x, P y := by
  rintro y rfl
  obtain ⟨value, -, -, hvalue⟩ := readOptional_eq_some_some_iff.mp h
  exact hread value y hvalue

/-- Null means that there is no value. -/
theorem ne_null_of_readOptional {found : Option Json} {x : Option Json}
    (h : readOptional found = some x) : x ≠ some .null := by
  rintro rfl
  obtain ⟨value, -, hnull, hvalue⟩ := readOptional_eq_some_some_iff.mp h
  injection hvalue with hvalue
  exact hnull hvalue

theorem forall_of_readList {P : α → Prop} (hread : ∀ v x, decode? v = some x → P x)
    {found : Option Json} {xs : List α} (h : readList found = some xs) :
    ∀ x ∈ xs, P x := by
  cases found with
  | none =>
      injection h with h
      subst h
      exact nofun
  | some value => exact forall_of_decode?_list hread h

end Reading

section Writing

variable {α : Type} [Encode α]

/-- What is found of a list where it was written. -/
def writtenList : List α → Option Json
  | [] => none
  | xs => some (encode xs)

@[simp] theorem get?_write (name key : String) (x : α) :
    Keyed.get? name (write key x) = if key = name then some (encode x) else none := rfl

@[simp] theorem get?_writeOptional (name key : String) (x : Option α) :
    Keyed.get? name (writeOptional key x) =
      if key = name then x.map encode else none := by
  cases x <;> simp [writeOptional]

@[simp] theorem get?_writeList (name key : String) (xs : List α) :
    Keyed.get? name (writeList key xs) =
      if key = name then writtenList xs else none := by
  cases xs <;> simp [writeList, writtenList]

variable [Decode α]

theorem readOptional_map_encode {x : Option α}
    (h : ∀ y ∈ x, decode? (encode y) = some y ∧ encode y ≠ .null) :
    readOptional (x.map encode) = some x := by
  cases x with
  | none => rfl
  | some y =>
      obtain ⟨hy, hnull⟩ := h y rfl
      rw [Option.map_some, readOptional, hy, Option.map_some]
      simpa using hnull

@[simp] theorem readOptional_map_encode_self [Lossless α] (x : Option α) :
    readOptional (x.map encode) = some x :=
  readOptional_map_encode fun y _ =>
    ⟨Lossless.decode?_encode y, Lossless.encode_ne_null y⟩

/-- Of the values of any kind null alone is lost. -/
theorem readOptional_map_encode_json {x : Option Json} (h : x ≠ some .null) :
    readOptional (x.map encode) = some x :=
  readOptional_map_encode fun v hv => ⟨rfl, fun hnull => h (by rw [hv, ← hnull]; rfl)⟩

theorem readList_writtenList {xs : List α}
    (h : ∀ x ∈ xs, decode? (encode x) = some x) : readList (writtenList xs) = some xs := by
  cases xs with
  | nil => rfl
  | cons x rest => exact decode?_encode_list h

@[simp] theorem readList_writtenList_self [Lossless α] (xs : List α) :
    readList (writtenList xs) = some xs :=
  readList_writtenList fun x _ => Lossless.decode?_encode x

end Writing

end Member

end ComposeLint
