/-!
# Association lists in key order

The members of an object, the declared properties of a schema and the schemas of a catalog are
maps whose order shows in what is printed. They are lists of pairs, and a list that is built
by `insert` alone holds every key once, in ascending order.

`get?` reads the first pair of a key, so the look-up laws, `get?_insert_self`,
`get?_insert_of_ne` and `get?_extend`, hold of every list, in order or not. That a pair which is
there is also found takes a list that holds every key once, as `ascending_ofList` says of those
built here.
-/

namespace ComposeLint

abbrev Keyed (κ α : Type) := List (κ × α)

namespace Keyed

variable {κ α β : Type}

/-- The value of the first pair with that key. -/
def get? [DecidableEq κ] (key : κ) : Keyed κ α → Option α
  | [] => none
  | (k, v) :: rest => if k = key then some v else get? key rest

def contains [DecidableEq κ] (key : κ) (m : Keyed κ α) : Bool := (get? key m).isSome

/-- Puts a value under a key, in the place of the key's earlier value or before the first
greater key. -/
def insert [DecidableEq κ] [LT κ] [DecidableLT κ] (key : κ) (value : α) : Keyed κ α → Keyed κ α
  | [] => [(key, value)]
  | (k, v) :: rest =>
    if k = key then (key, value) :: rest
    else if key < k then (key, value) :: (k, v) :: rest
    else (k, v) :: insert key value rest

/-- Inserts every pair of the second list into the first, in order: the last value of a key
stays. -/
def extend [DecidableEq κ] [LT κ] [DecidableLT κ] (m : Keyed κ α) (pairs : List (κ × α)) :
    Keyed κ α :=
  pairs.foldl (fun acc pair => insert pair.1 pair.2 acc) m

def ofList [DecidableEq κ] [LT κ] [DecidableLT κ] (pairs : List (κ × α)) : Keyed κ α :=
  extend [] pairs

def keys (m : Keyed κ α) : List κ := m.map Prod.fst

def values (m : Keyed κ α) : List α := m.map Prod.snd

/-- Every key stands before all greater ones, and so stands once. -/
def Ascending [LT κ] (m : Keyed κ α) : Prop := (keys m).Pairwise (· < ·)

section Laws

variable [DecidableEq κ]

@[simp] theorem get?_nil (key : κ) : get? key ([] : Keyed κ α) = none := rfl

@[simp] theorem get?_cons (key k : κ) (v : α) (rest : Keyed κ α) :
    get? key ((k, v) :: rest) = if k = key then some v else get? key rest := rfl

theorem get?_append (key : κ) (m n : Keyed κ α) :
    get? key (m ++ n) = (get? key m).or (get? key n) := by
  induction m with
  | nil => simp
  | cons pair rest ih =>
    obtain ⟨k, v⟩ := pair
    by_cases h : k = key <;> simp [h, ih]

theorem mem_of_get?_eq_some {key : κ} {value : α} {m : Keyed κ α}
    (h : get? key m = some value) : (key, value) ∈ m := by
  induction m with
  | nil => simp at h
  | cons pair rest ih =>
    obtain ⟨k, v⟩ := pair
    by_cases hk : k = key
    · simp_all
    · rw [get?_cons, if_neg hk] at h
      exact List.mem_cons_of_mem _ (ih h)

theorem contains_iff {key : κ} {m : Keyed κ α} : contains key m = true ↔ key ∈ keys m := by
  induction m with
  | nil => simp [contains, keys]
  | cons pair rest ih =>
    obtain ⟨k, v⟩ := pair
    rw [contains] at ih ⊢
    by_cases h : k = key
    · simp [keys, h]
    · simp [keys, h, Ne.symm h, ih]

theorem contains_of_mem {key : κ} {value : α} {m : Keyed κ α} (h : (key, value) ∈ m) :
    contains key m = true :=
  contains_iff.mpr (List.mem_map_of_mem (f := Prod.fst) h)

/-- A key is looked up among the pairs that a choice of keys keeps, if it is chosen. -/
theorem get?_filter {p : κ → Bool} {key : κ} (h : p key = true) (m : Keyed κ α) :
    get? key (m.filter (p ·.1)) = get? key m := by
  induction m with
  | nil => rfl
  | cons pair rest ih =>
    obtain ⟨k, v⟩ := pair
    by_cases hk : k = key
    · subst hk
      simp [h]
    · by_cases hp : p k = true <;> simp [hk, hp, ih]

variable [LT κ] [DecidableLT κ]

theorem get?_insert_self (key : κ) (value : α) (m : Keyed κ α) :
    get? key (insert key value m) = some value := by
  induction m with
  | nil => simp [insert]
  | cons pair rest ih =>
    obtain ⟨k, v⟩ := pair
    unfold insert
    split
    · simp
    · next hk =>
      split
      · simp
      · simp [hk, ih]

theorem get?_insert_of_ne {key other : κ} (h : key ≠ other) (value : α) (m : Keyed κ α) :
    get? other (insert key value m) = get? other m := by
  induction m with
  | nil => simp [insert, h]
  | cons pair rest ih =>
    obtain ⟨k, v⟩ := pair
    unfold insert
    split
    · next hk => subst hk; simp [h]
    · split
      · simp [h]
      · by_cases hk : k = other <;> simp [hk, ih]

/-- Of the values that a key is given the last one stays. -/
theorem get?_extend (key : κ) (m : Keyed κ α) (pairs : List (κ × α)) :
    get? key (extend m pairs) = (get? key pairs.reverse).or (get? key m) := by
  induction pairs generalizing m with
  | nil => rfl
  | cons pair rest ih =>
    obtain ⟨k, v⟩ := pair
    have hextend : extend m ((k, v) :: rest) = extend (insert k v m) rest := rfl
    rw [hextend, ih, List.reverse_cons, get?_append, Option.or_assoc]
    by_cases hk : k = key
    · subst hk
      simp [get?_insert_self]
    · simp [get?_insert_of_ne hk, hk]

theorem ofList_append (pairs pairs' : List (κ × α)) :
    ofList (pairs ++ pairs') = extend (ofList pairs) pairs' :=
  List.foldl_append

theorem contains_extend (key : κ) (m : Keyed κ α) (pairs : List (κ × α)) :
    contains key (extend m pairs) = (contains key pairs.reverse || contains key m) := by
  rw [contains, get?_extend, Option.isSome_or]
  rfl

end Laws

section Order

/-- A pair is looked up if it is there, and no other pair of the list has its key. -/
theorem get?_eq_some_iff [DecidableEq κ] {m : Keyed κ α} (h : (keys m).Nodup) {key : κ}
    {value : α} : get? key m = some value ↔ (key, value) ∈ m := by
  refine ⟨mem_of_get?_eq_some, fun hmem => ?_⟩
  induction m with
  | nil => cases hmem
  | cons pair rest ih =>
    obtain ⟨k, v⟩ := pair
    obtain ⟨hk, hrest⟩ := List.nodup_cons.mp h
    rw [get?_cons]
    rcases List.mem_cons.mp hmem with heq | hmem
    · cases heq
      rw [if_pos rfl]
    · have hkey : key ∈ keys rest := List.mem_map_of_mem (f := Prod.fst) hmem
      rw [if_neg (ne_of_mem_of_not_mem hkey hk).symm]
      exact ih hrest hmem

/-- Where every key stands once, it is found from either end. -/
theorem get?_reverse [DecidableEq κ] {m : Keyed κ α} (h : (keys m).Nodup) (key : κ) :
    get? key m.reverse = get? key m := by
  have hreverse : (keys m.reverse).Nodup := by
    rw [keys, List.map_reverse]
    exact List.pairwise_reverse.mpr (h.imp Ne.symm)
  refine Option.ext fun value => ?_
  rw [get?_eq_some_iff hreverse, get?_eq_some_iff h, List.mem_reverse]

variable [LT κ]

theorem Ascending.nodup [Std.Irrefl (α := κ) (· < ·)] {m : Keyed κ α} (h : Ascending m) :
    (keys m).Nodup := by
  refine List.Pairwise.imp ?_ h
  rintro a _ hlt rfl
  exact Std.lt_irrefl hlt

/-- A list in order is known by what is looked up in it. -/
theorem Ascending.ext [DecidableEq κ] [Std.Irrefl (α := κ) (· < ·)]
    [Trans (α := κ) (· < ·) (· < ·) (· < ·)] {m n : Keyed κ α} (hm : Ascending m)
    (hn : Ascending n) (h : ∀ key, get? key m = get? key n) : m = n := by
  have hpairs : ∀ {l : Keyed κ α}, Ascending l → l.Pairwise fun a b => a.1 < b.1 :=
    List.pairwise_map.mp
  have hnodup : ∀ {l : Keyed κ α}, Ascending l → l.Nodup := by
    refine fun hl => (hpairs hl).imp ?_
    rintro a _ hlt rfl
    exact Std.lt_irrefl hlt
  have hmem : ∀ pair, pair ∈ m ↔ pair ∈ n := by
    rintro ⟨key, value⟩
    rw [← get?_eq_some_iff hm.nodup, ← get?_eq_some_iff hn.nodup, h]
  have hperm := (List.perm_ext_iff_of_nodup (hnodup hm) (hnodup hn)).mpr hmem
  refine hperm.eq_of_pairwise ?_ (hpairs hm) (hpairs hn)
  intro a b _ _ hab hba
  exact absurd (Std.lt_trans hab hba) Std.lt_irrefl

variable [DecidableEq κ] [DecidableLT κ]

theorem mem_insert {key : κ} {value : α} {m : Keyed κ α} {pair : κ × α}
    (h : pair ∈ insert key value m) : pair = (key, value) ∨ pair ∈ m := by
  induction m with
  | nil => exact .inl (List.mem_singleton.mp h)
  | cons first rest ih =>
    obtain ⟨k, v⟩ := first
    unfold insert at h
    split at h
    · exact (List.mem_cons.mp h).imp_right (List.mem_cons_of_mem _)
    · split at h
      · exact List.mem_cons.mp h
      · rcases List.mem_cons.mp h with heq | hmem
        · exact .inr (heq ▸ List.mem_cons_self)
        · exact (ih hmem).imp_right (List.mem_cons_of_mem _)

theorem mem_extend {m : Keyed κ α} {pairs : List (κ × α)} {pair : κ × α}
    (h : pair ∈ extend m pairs) : pair ∈ pairs ∨ pair ∈ m := by
  induction pairs generalizing m with
  | nil => exact .inr h
  | cons first rest ih =>
    rcases ih h with hmem | hmem
    · exact .inl (List.mem_cons_of_mem _ hmem)
    · rcases mem_insert hmem with rfl | hmem
      · exact .inl List.mem_cons_self
      · exact .inr hmem

variable [Trans (α := κ) (· < ·) (· < ·) (· < ·)] [Std.Trichotomous (α := κ) (· < ·)]

theorem Ascending.insert {m : Keyed κ α} (h : Ascending m) (key : κ) (value : α) :
    Ascending (insert key value m) := by
  induction m with
  | nil => exact List.pairwise_singleton _ _
  | cons pair rest ih =>
    obtain ⟨k, v⟩ := pair
    obtain ⟨hk, hrest⟩ := List.pairwise_cons.mp h
    unfold Keyed.insert
    split
    · next heq => subst heq; exact h
    · next hne =>
      split
      · next hlt =>
        refine List.pairwise_cons.mpr ⟨fun other hother => ?_, h⟩
        rcases List.mem_cons.mp hother with rfl | hother
        · exact hlt
        · exact Std.lt_trans hlt (hk other hother)
      · next hnlt =>
        refine List.pairwise_cons.mpr ⟨fun other hother => ?_, ih hrest⟩
        obtain ⟨⟨_, w⟩, hpair, rfl⟩ := List.mem_map.mp hother
        rcases mem_insert hpair with heq | hpair
        · cases heq
          exact (Std.lt_trichotomy k key).resolve_right (not_or.mpr ⟨hne, hnlt⟩)
        · exact hk _ (List.mem_map_of_mem (f := Prod.fst) hpair)

theorem Ascending.extend {m : Keyed κ α} (h : Ascending m) (pairs : List (κ × α)) :
    Ascending (extend m pairs) := by
  induction pairs generalizing m with
  | nil => exact h
  | cons pair rest ih => exact ih (h.insert pair.1 pair.2)

/-- What is built by `insert` alone is in order. -/
theorem ascending_ofList (pairs : List (κ × α)) : Ascending (ofList pairs) :=
  Ascending.extend (m := []) List.Pairwise.nil pairs

/-- Pairs may be put in order before they are inserted, as the last value of a key stays. -/
theorem extend_ofList [Std.Irrefl (α := κ) (· < ·)] {m : Keyed κ α} (h : Ascending m)
    (pairs : List (κ × α)) : Keyed.extend m (ofList pairs) = Keyed.extend m pairs := by
  refine (h.extend _).ext (h.extend _) fun key => ?_
  rw [get?_extend, get?_extend, get?_reverse (ascending_ofList pairs).nodup, ofList,
    get?_extend, get?_nil, Option.or_none]

end Order

end Keyed

end ComposeLint
