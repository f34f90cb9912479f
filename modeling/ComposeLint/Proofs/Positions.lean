import Mathlib.Data.List.Basic

/-!
# Lists with positions

A check of a list hands every element its position, for the path of what it finds,
and puts the findings of all elements one after the other. Whether anything is
found is most often no matter of positions. Where it is, a position in the result
is traced back to the element that it comes from (`exists_of_getElem?_flatMap`).
-/

namespace ComposeLint

variable {α β : Type} {l : List α}

theorem pairwise_zipIdx (l : List α) : l.zipIdx.Pairwise fun v w => v.2 < w.2 := by
  rw [← List.pairwise_map (f := Prod.snd), List.zipIdx_map_snd]
  exact List.pairwise_lt_range'

theorem forall_mem_zipIdx_iff {P : α × Nat → Prop} :
    (∀ v ∈ l.zipIdx, P v) ↔ ∀ i x, l[i]? = some x → P (x, i) := by
  simp only [Prod.forall, List.mk_mem_zipIdx_iff_getElem?]
  exact forall_comm

/-- A check that disregards positions passes all pairs if it passes all elements. -/
theorem forall_mem_zipIdx_iff_of_fst {P : α × Nat → Prop} {Q : α → Prop}
    (h : ∀ x i, P (x, i) ↔ Q x) : (∀ v ∈ l.zipIdx, P v) ↔ ∀ x ∈ l, Q x := by
  rw [forall_mem_zipIdx_iff]
  simp only [h]
  constructor
  · intro hall x hx
    obtain ⟨i, hi⟩ := List.mem_iff_getElem?.mp hx
    exact hall i x hi
  · intro hall i x hx
    exact hall x (List.mem_of_getElem? hx)

theorem filterMap_zipIdx_eq_nil_iff {g : α × Nat → Option β} {Q : α → Prop}
    (h : ∀ x i, g (x, i) = none ↔ Q x) :
    l.zipIdx.filterMap g = [] ↔ ∀ x ∈ l, Q x := by
  rw [List.filterMap_eq_nil_iff]
  exact forall_mem_zipIdx_iff_of_fst h

theorem flatMap_zipIdx_eq_nil_iff {g : α × Nat → List β} {Q : α → Prop}
    (h : ∀ x i, g (x, i) = [] ↔ Q x) :
    l.zipIdx.flatMap g = [] ↔ ∀ x ∈ l, Q x := by
  rw [List.flatMap_eq_nil_iff]
  exact forall_mem_zipIdx_iff_of_fst h

theorem flatMap_zipIdx_map {γ : Type} {s : α → γ} {g : γ × Nat → List β} :
    (l.map s).zipIdx.flatMap g = l.zipIdx.flatMap fun v => g (s v.1, v.2) := by
  rw [List.zipIdx_map, List.flatMap_map]
  rfl

/-- A check that passes over one position does not see what stands there. -/
theorem flatMap_zipIdx_congr_of_ne {l' : List α} {g : α × Nat → List β} {k : Nat}
    (hlength : l.length = l'.length) (hsame : ∀ i, i ≠ k → l[i]? = l'[i]?)
    (hk : ∀ x, g (x, k) = []) : l.zipIdx.flatMap g = l'.zipIdx.flatMap g := by
  have hmap : l.zipIdx.map g = l'.zipIdx.map g := by
    refine List.ext_getElem? fun i => ?_
    simp only [List.getElem?_map, List.getElem?_zipIdx, Option.map_map, Nat.zero_add]
    by_cases hi : i = k
    · subst hi
      have hconst : (g ∘ fun x => (x, i)) = fun _ => [] := funext hk
      rw [hconst]
      by_cases hlt : i < l.length
      · rw [List.getElem?_eq_getElem hlt, List.getElem?_eq_getElem (hlength ▸ hlt)]
        rfl
      · rw [List.getElem?_eq_none (by omega), List.getElem?_eq_none (by omega)]
    · rw [hsame i hi]
  rw [List.flatMap_def, List.flatMap_def, hmap]

/-- What one check finds in the elements of a list, another finds that finds at least
as much in every element. -/
theorem filterMap_sublist {f g : α → Option β}
    (h : ∀ x ∈ l, ∀ y, f x = some y → g x = some y) :
    (l.filterMap f).Sublist (l.filterMap g) := by
  induction l with
  | nil => exact List.Sublist.refl _
  | cons a rest ih =>
      obtain ⟨ha, hrest⟩ := List.forall_mem_cons.mp h
      cases hf : f a with
      | none =>
          rw [List.filterMap_cons_none hf]
          refine (ih hrest).trans ?_
          cases hg : g a with
          | none => rw [List.filterMap_cons_none hg]
          | some y => rw [List.filterMap_cons_some hg]; exact List.sublist_cons_self _ _
      | some y =>
          rw [List.filterMap_cons_some hf, List.filterMap_cons_some (ha y hf)]
          exact (ih hrest).cons_cons y

/-- Looking back from every element to all before it is looking at all pairs. -/
theorem forall_take_iff_pairwise {R : α → α → Prop} :
    (∀ i x, l[i]? = some x → ∀ y ∈ l.take i, R y x) ↔ l.Pairwise R := by
  rw [List.pairwise_iff_getElem]
  constructor
  · intro h i j hi hj hij
    refine h j l[j] (List.getElem?_eq_getElem hj) l[i] ?_
    exact List.mem_take_iff_getElem.mpr ⟨i, by omega, rfl⟩
  · intro h j x hx y hy
    obtain ⟨hj, rfl⟩ := List.getElem?_eq_some_iff.mp hx
    obtain ⟨i, hi, rfl⟩ := List.mem_take_iff_getElem.mp hy
    exact h i j (by omega) hj (by omega)

/-- A position among what all elements give is one among what some element gives,
after what all elements before it give. -/
theorem exists_of_getElem?_flatMap {g : α → List β} {j : Nat} {y : β}
    (h : (l.flatMap g)[j]? = some y) :
    ∃ k x m, l[k]? = some x ∧ (g x)[m]? = some y ∧
      j = ((l.take k).flatMap g).length + m := by
  induction l generalizing j with
  | nil => simp at h
  | cons a rest ih =>
      rw [List.flatMap_cons, List.getElem?_append] at h
      split at h
      · exact ⟨0, a, j, rfl, h, by simp⟩
      · next hj =>
          obtain ⟨k, x, m, hx, hy, hm⟩ := ih h
          refine ⟨k + 1, x, m, hx, hy, ?_⟩
          rw [List.take_succ_cons, List.flatMap_cons, List.length_append]
          omega

/-- If every element gives one, positions stay what they were. -/
theorem length_flatMap_of_length_eq_one {g : α → List β}
    (h : ∀ x ∈ l, (g x).length = 1) : (l.flatMap g).length = l.length := by
  have hone : l.map (fun x => (g x).length) = l.map fun _ => 1 :=
    List.map_congr_left h
  rw [List.length_flatMap, hone]
  simp

end ComposeLint
