import Mathlib.Data.List.Basic
import Mathlib.Data.List.Induction

/-!
# Computations that may fail

What it takes for a composed computation to succeed: every part of it has to. The
lemmas turn a success around, into the successes of its parts.
-/

namespace ComposeLint

variable {ε α β : Type}

theorem bind_eq_ok_iff {x : Except ε α} {f : α → Except ε β} {b : β} :
    x >>= f = .ok b ↔ ∃ a, x = .ok a ∧ f a = .ok b := by
  cases x with
  | error e => exact iff_of_false nofun nofun
  | ok a =>
      constructor
      · exact fun h => ⟨a, rfl, h⟩
      · rintro ⟨_, ⟨⟩, h⟩
        exact h

theorem bind_eq_error_iff {x : Except ε α} {f : α → Except ε β} {e : ε} :
    x >>= f = .error e ↔ x = .error e ∨ ∃ a, x = .ok a ∧ f a = .error e := by
  cases x with
  | error e' =>
      constructor
      · rintro ⟨⟩
        exact .inl rfl
      · rintro (⟨⟨⟩⟩ | ⟨_, ⟨⟩, _⟩)
        rfl
  | ok a =>
      constructor
      · exact fun h => .inr ⟨a, rfl, h⟩
      · rintro (⟨⟨⟩⟩ | ⟨_, ⟨⟩, h⟩)
        exact h

/-- What every step keeps, of the elements that were folded so far, holds at the end. -/
theorem foldlM_inv {f : β → α → Except ε β} {P : List α → β → Prop}
    (hstep : ∀ {before b x b'}, P before b → f b x = .ok b' → P (before ++ [x]) b')
    {l : List α} {b b' : β} (h : P [] b) (hrun : l.foldlM f b = .ok b') : P l b' := by
  induction l using List.reverseRecOn generalizing b' with
  | nil =>
      injection hrun with hrun
      subst hrun
      exact h
  | append_singleton before x ih =>
      rw [List.foldlM_append, bind_eq_ok_iff] at hrun
      obtain ⟨mid, hbefore, hx⟩ := hrun
      rw [List.foldlM_cons, bind_eq_ok_iff] at hx
      obtain ⟨_, hx, ⟨⟩⟩ := hx
      exact hstep (ih hbefore) hx

/-- A fold fails at the first element that cannot be folded. -/
theorem foldlM_eq_error_iff {f : β → α → Except ε β} {l : List α} {b : β} {e : ε} :
    l.foldlM f b = .error e ↔
      ∃ before x after b', l = before ++ x :: after ∧
        before.foldlM f b = .ok b' ∧ f b' x = .error e := by
  induction l generalizing b with
  | nil => simp [pure, Except.pure]
  | cons y rest ih =>
      rw [List.foldlM_cons, bind_eq_error_iff]
      constructor
      · rintro (h | ⟨b', hb', h⟩)
        · exact ⟨[], y, rest, b, rfl, rfl, h⟩
        · obtain ⟨before, x, after, b'', rfl, hbefore, hx⟩ := ih.mp h
          refine ⟨y :: before, x, after, b'', rfl, ?_, hx⟩
          rw [List.foldlM_cons, hb']
          exact hbefore
      · rintro ⟨before, x, after, b'', hl, hbefore, hx⟩
        cases before with
        | nil =>
            injection hl with hy hrest
            injection hbefore with hbefore
            subst hy hbefore
            exact .inl hx
        | cons z before =>
            injection hl with hy hrest
            subst hy hrest
            rw [List.foldlM_cons, bind_eq_ok_iff] at hbefore
            obtain ⟨b', hb', hbefore⟩ := hbefore
            exact .inr ⟨b', hb', ih.mpr ⟨before, x, after, b'', rfl, hbefore, hx⟩⟩

theorem mapError_eq_ok_iff {ε' : Type} {x : Except ε α} {f : ε → ε'} {a : α} :
    x.mapError f = .ok a ↔ x = .ok a := by
  cases x <;> simp [Except.mapError]

theorem mapError_eq_error_iff {ε' : Type} {x : Except ε α} {f : ε → ε'} {e' : ε'} :
    x.mapError f = .error e' ↔ ∃ e, x = .error e ∧ f e = e' := by
  cases x <;> simp [Except.mapError]

theorem mapError_bind {ε' : Type} (x : Except ε α) (f : α → Except ε β) (g : ε → ε') :
    (x >>= f).mapError g = x.mapError g >>= fun a => (f a).mapError g := by
  cases x <;> rfl

theorem mapError_mapError {ε' ε'' : Type} (x : Except ε α) (f : ε → ε') (g : ε' → ε'') :
    (x.mapError f).mapError g = x.mapError (g ∘ f) := by
  cases x <;> rfl

/-- A list is mapped if all of its elements are. -/
theorem mapM_eq_ok_iff {f : α → Except ε β} {l : List α} {ys : List β} :
    l.mapM f = .ok ys ↔ l.map f = ys.map .ok := by
  induction l generalizing ys with
  | nil =>
      rw [List.mapM_nil, List.map_nil, eq_comm (a := []), List.map_eq_nil_iff]
      exact ⟨fun h => by cases h; rfl, fun h => by rw [h]; rfl⟩
  | cons x rest ih =>
      rw [List.mapM_cons, bind_eq_ok_iff, List.map_cons]
      simp only [bind_eq_ok_iff, ih]
      constructor
      · rintro ⟨y, hy, ys, hys, ⟨⟩⟩
        rw [hy, hys, List.map_cons]
      · intro h
        obtain ⟨y, ys, rfl, hy, hys⟩ := List.map_eq_cons_iff.mp h.symm
        exact ⟨y, hy.symm, ys, hys.symm, rfl⟩

/-- What a list is mapped to comes from its elements. -/
theorem exists_of_mem_mapM {f : α → Except ε β} {l : List α} {ys : List β}
    (h : l.mapM f = .ok ys) {y : β} (hy : y ∈ ys) : ∃ x ∈ l, f x = .ok y := by
  have hmem : Except.ok y ∈ l.map f := by
    rw [mapM_eq_ok_iff.mp h]
    exact List.mem_map_of_mem hy
  exact List.mem_map.mp hmem

/-- What the elements of a list come to is in what the list is mapped to. -/
theorem exists_mem_of_mapM {f : α → Except ε β} {l : List α} {ys : List β}
    (h : l.mapM f = .ok ys) {x : α} (hx : x ∈ l) : ∃ y ∈ ys, f x = .ok y := by
  have hmem : f x ∈ ys.map .ok := by
    rw [← mapM_eq_ok_iff.mp h]
    exact List.mem_map_of_mem hx
  obtain ⟨y, hy, heq⟩ := List.mem_map.mp hmem
  exact ⟨y, hy, heq.symm⟩

theorem mapError_mapM {ε' : Type} (f : α → Except ε β) (g : ε → ε') (l : List α) :
    (l.mapM f).mapError g = l.mapM fun x => (f x).mapError g := by
  induction l with
  | nil => rfl
  | cons x rest ih =>
      rw [List.mapM_cons, List.mapM_cons, mapError_bind, ← ih]
      refine bind_congr fun y => ?_
      cases rest.mapM f <;> rfl

/-! ## Failures alone

Which error a computation fails with does not depend on what it would have
returned. With its result discarded, one that goes through a list is a `forM`. -/

theorem discard_eq_error_iff {x : Except ε α} {e : ε} :
    discard x = .error e ↔ x = .error e := by
  cases x with
  | error _ =>
      constructor
      · rintro ⟨⟩
        rfl
      · rintro ⟨⟩
        rfl
  | ok _ => exact iff_of_false nofun nofun

theorem discard_eq_ok_iff {x : Except ε α} : discard x = .ok ⟨⟩ ↔ ∃ a, x = .ok a := by
  cases x with
  | error _ => exact iff_of_false nofun nofun
  | ok a => exact iff_of_true rfl ⟨a, rfl⟩

theorem discard_bind (x : Except ε α) (f : α → Except ε β) :
    discard (x >>= f) = x >>= fun a => discard (f a) := by
  cases x <;> rfl

theorem discard_bind_pure (x : Except ε α) (f : α → β) :
    discard (x >>= fun a => pure (f a)) = discard x := by
  cases x <;> rfl

theorem discard_mapM (f : α → Except ε β) (l : List α) :
    discard (l.mapM f) = forM l fun x => discard (f x) := by
  induction l with
  | nil => rfl
  | cons x rest ih =>
      rw [List.mapM_cons, List.forM_cons, ← ih]
      cases f x with
      | error _ => rfl
      | ok _ => cases rest.mapM f <;> rfl

/-- Going through a list succeeds if all elements do. -/
theorem forM_eq_ok_iff {f : α → Except ε Unit} {l : List α} :
    forM l f = .ok () ↔ ∀ x ∈ l, f x = .ok () := by
  induction l with
  | nil => exact iff_of_true rfl nofun
  | cons x rest ih =>
      rw [List.forM_cons, bind_eq_ok_iff, List.forall_mem_cons, ← ih]
      constructor
      · rintro ⟨⟨⟩, hx, hrest⟩
        exact ⟨hx, hrest⟩
      · rintro ⟨hx, hrest⟩
        exact ⟨(), hx, hrest⟩

/-- Going through a list fails at the first element that fails. -/
theorem forM_eq_error_iff {f : α → Except ε Unit} {l : List α} {e : ε} :
    forM l f = .error e ↔
      ∃ before x after, l = before ++ x :: after ∧
        (∀ y ∈ before, ∀ e', f y ≠ .error e') ∧ f x = .error e := by
  induction l with
  | nil => exact iff_of_false nofun (by simp)
  | cons y rest ih =>
      rw [List.forM_cons, bind_eq_error_iff]
      constructor
      · rintro (h | ⟨a, ha, h⟩)
        · exact ⟨[], y, rest, rfl, by simp, h⟩
        · obtain ⟨before, x, after, rfl, hbefore, hx⟩ := ih.mp h
          refine ⟨y :: before, x, after, rfl, ?_, hx⟩
          exact List.forall_mem_cons.mpr ⟨by simp [ha], hbefore⟩
      · rintro ⟨before, x, after, hl, hbefore, hx⟩
        cases before with
        | nil =>
            cases hl
            exact .inl hx
        | cons z before =>
            cases hl
            obtain ⟨hy, hbefore⟩ := List.forall_mem_cons.mp hbefore
            cases hfy : f y with
            | error e' => exact absurd hfy (hy e')
            | ok a => exact .inr ⟨a, rfl, ih.mpr ⟨before, x, after, rfl, hbefore, hx⟩⟩

theorem mapM_eq_some_iff {f : α → Option β} {l : List α} {ys : List β} :
    l.mapM f = some ys ↔ l.map f = ys.map some := by
  induction l generalizing ys with
  | nil => cases ys <;> simp
  | cons x rest ih =>
      rw [List.mapM_cons, List.map_cons]
      simp only [Option.bind_eq_bind, Option.bind_eq_some_iff, ih]
      constructor
      · rintro ⟨y, hy, ys, hys, ⟨⟩⟩
        rw [hy, hys, List.map_cons]
      · intro h
        obtain ⟨y, ys, rfl, hy, hys⟩ := List.map_eq_cons_iff.mp h.symm
        exact ⟨y, hy.symm, ys, hys.symm, rfl⟩

end ComposeLint
