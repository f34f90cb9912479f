import ComposeLint.Proofs.PathRoundTrip

/-!
# One path after another

The text of a path goes on with the text of another, after a dot unless a bracket
comes next, and then is the text of the one path followed by the other. Neither the
reader nor the printer looks across the seam, though each of them could: the reader
is still in a name where the first text ends, and the printer writes the first
segment of a path unlike the others.

For the reader the grammar settles it. An item that a text begins with is one that
follows others as soon as the dot is put before it, if it is a name, so `seam` turns
a whole text into items that follow others (`Spells.exists_items`), and those may be
put behind any text but the empty one.

The printer is not held to names that can be read, and neither is what is said of it
here. It writes a dot exactly before the fields that are printed as their name, also
where such a text would not be read back.
-/

namespace ComposeLint

namespace Segment

/-- A field whose text is its name, with no brackets around it. -/
def Unbracketed : Segment → Prop
  | field name => (field name).render = name
  | index _ => False

instance : DecidablePred Unbracketed
  | field name => inferInstanceAs (Decidable ((field name).render = name))
  | index _ => .isFalse id

theorem length_lt_of_not_isBare {name : String} (h : (field name).isBare = false) :
    name.toList.length < (field name).chars.length := by
  simp only [isBare, Bool.not_eq_false'] at h
  simp only [chars, h, if_true]
  -- With or without quotes in the brackets.
  split <;>
    · simp only [List.cons_append, List.length_cons, List.length_append]
      omega

theorem unbracketed_iff_isBare {s : Segment} : s.Unbracketed ↔ s.isBare = true := by
  cases s with
  | index n => exact iff_of_false id nofun
  | field name =>
      rw [Unbracketed, render]
      constructor
      · intro h
        by_contra hbare
        have hlt := length_lt_of_not_isBare (Bool.eq_false_iff.mpr hbare)
        rw [← String.toList_ofList (l := (field name).chars), h] at hlt
        exact Nat.lt_irrefl _ hlt
      · intro hbare
        rw [chars_field_of_isBare hbare, String.ofList_toList]

theorem charsAfter_eq (s : Segment) :
    s.charsAfter = (if s.Unbracketed then ['.'] else []) ++ s.chars := by
  simp only [unbracketed_iff_isBare, charsAfter]
  split <;> rfl

end Segment

namespace Path

/-! ## Reading -/

/-- What a text needs before it to be read after another. -/
def seam (text : List Char) : List Char := if text.head? = some '[' then [] else ['.']

theorem IsName.seam_append {name : List Char} (h : IsName name) (rest : List Char) :
    seam (name ++ rest) = ['.'] := by
  match name with
  | [] => exact absurd rfl h.ne_nil
  | c :: letters =>
      have hc : c ≠ '[' := by
        rintro rfl
        exact absurd (h.bare _ List.mem_cons_self) (by decide)
      simp [seam, hc]

/-- Behind its seam, a text is a run of items that follow others. -/
theorem Spells.exists_items {text : List Char} {path : Path} (h : Spells text path)
    (hne : text ≠ []) :
    ∃ items, List.Forall₂ NextItem items path ∧ items.flatten = seam text ++ text := by
  cases h with
  | empty => exact absurd rfl hne
  | @items first rest s path hfirst hrest =>
      -- A name needs the dot to be one that follows, and a bracket is both.
      cases hfirst with
      | name hname =>
          refine ⟨('.' :: first) :: rest, .cons (.name hname) hrest, ?_⟩
          rw [hname.seam_append]
          rfl
      | @bracket content hcontent =>
          exact ⟨inBrackets content :: rest, .cons (.bracket hcontent) hrest, rfl⟩

theorem Spells.join {text text' : List Char} {path path' : Path} (h : Spells text path)
    (hne : text ≠ []) (h' : Spells text' path') (hne' : text' ≠ []) :
    Spells (text ++ (seam text' ++ text')) (path ++ path') := by
  obtain ⟨items, hitems, hflatten⟩ := h'.exists_items hne'
  rw [← hflatten]
  exact h.append_items hne hitems

theorem parse_append {s t : String} {p q : Path} (hs : s ≠ "") (ht : t ≠ "")
    (hp : parse s = .ok p) (hq : parse t = .ok q) :
    parse (if t.toList.head? = some '[' then s ++ t else s ++ "." ++ t) = .ok (p ++ q) := by
  have hspells := (parse_eq_ok_iff_spells.mp hp).join (by simpa using hs)
    (parse_eq_ok_iff_spells.mp hq) (by simpa using ht)
  rw [parse_eq_ok_iff_spells]
  rw [seam] at hspells
  split
  · next hbracket =>
      rw [if_pos hbracket, List.nil_append] at hspells
      rwa [String.toList_append]
  · next hname =>
      rw [if_neg hname, ← List.append_assoc] at hspells
      rwa [String.toList_append, String.toList_append]

/-! ## Printing -/

theorem chars_append {p : Path} (hp : p ≠ []) (q : Path) :
    chars (p ++ q) = chars p ++ q.flatMap Segment.charsAfter := by
  match p with
  | [] => exact absurd rfl hp
  | s :: rest =>
      rw [List.cons_append, chars, chars, List.flatMap_append, List.append_assoc]

theorem flatMap_charsAfter {q : Path} (hq : q ≠ []) :
    q.flatMap Segment.charsAfter =
      (if (q.head hq).Unbracketed then ['.'] else []) ++ chars q := by
  match q with
  | [] => exact absurd rfl hq
  | s :: rest =>
      rw [List.flatMap_cons, Segment.charsAfter_eq, List.append_assoc]
      rfl

theorem render_append {p q : Path} (hp : p ≠ []) (hq : q ≠ []) :
    render (p ++ q) =
      render p ++ (if (q.head hq).Unbracketed then "." else "") ++ render q := by
  rw [← String.toList_inj]
  simp only [render, String.toList_append, String.toList_ofList]
  rw [chars_append hp, flatMap_charsAfter hq, List.append_assoc]
  split <;> rfl

/-- Two texts of paths make the text of the one path after the other, with a dot
between them unless the second begins with a bracket, and that is how such a path
is printed, with a dot if a name without brackets comes next. -/
theorem parse_append_and_render_append :
    (∀ (s t : String) (p q : Path), s ≠ "" → t ≠ "" →
      parse s = .ok p → parse t = .ok q →
        parse (if t.toList.head? = some '[' then s ++ t else s ++ "." ++ t) =
          .ok (p ++ q)) ∧
      ∀ (p q : Path) (_ : p ≠ []) (hq : q ≠ []),
        render (p ++ q) =
          render p ++ (if (q.head hq).Unbracketed then "." else "") ++ render q :=
  ⟨fun _ _ _ _ => parse_append, fun _ _ => render_append⟩

/-- A dot in quotes is not at the seam, and quotes without brackets are letters. The
last name could not be read back where it is printed. -/
theorem parse_append_and_render_append_labels :
    (parse "spec.tags[0]" = .ok [.field "spec", .field "tags", .index 0] ∧
      parse "['a.b']" = .ok [.field "a.b"] ∧
      parse "spec.tags[0]['a.b']" =
        .ok ([.field "spec", .field "tags", .index 0] ++ [.field "a.b"])) ∧
      (parse "'é'[7]" = .ok [.field "'é'", .index 7] ∧
        parse "spec.tags[0].'é'[7]" =
          .ok ([.field "spec", .field "tags", .index 0] ++ [.field "'é'", .index 7])) ∧
      render ([.index 0, .field ""] ++ [.field "key", .field "]"]) = "[0][''].key[]]" := by
  have h := parse_append_and_render_append
  have htags : parse "spec.tags[0]" = .ok [.field "spec", .field "tags", .index 0] := rfl
  have hquoted : parse "['a.b']" = .ok [.field "a.b"] := rfl
  have hbare : parse "'é'[7]" = .ok [.field "'é'", .index 7] := rfl
  refine ⟨⟨htags, hquoted, ?_⟩, ⟨hbare, ?_⟩, h.2 _ _ (by decide) (by decide)⟩
  · exact h.1 "spec.tags[0]" "['a.b']" _ _ (by decide) (by decide) htags hquoted
  · exact h.1 "spec.tags[0]" "'é'[7]" _ _ (by decide) (by decide) htags hbare

end Path

end ComposeLint
