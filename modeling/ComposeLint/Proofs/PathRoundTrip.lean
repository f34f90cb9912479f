import ComposeLint.Proofs.PathGrammar

/-!
# A printed path, read again

The printer writes a name bare, in a bracket, or in quotes inside a bracket,
and the reader has to undo the choice with nothing but the text to go by. It
does so for every path whose segments some text spells, with one exception:
a name that is printed in a bracket as it stands, and that has quotes of its
own at both ends, comes back without them. `Segment.reread` is the segment that
comes back, and `parse_render_of_readable` says that it is what is read, for
whole paths and whatever follows whatever. The reader is not opened for it: what
is printed is an item of the grammar, segment by segment (`spells_chars`).

Everything else is bookkeeping on that equation. A path is its own reading
exactly if no segment is changed by it, and paths that were read are readable
to begin with.
-/

namespace ComposeLint

namespace Path

/-- A name that is printed in a bracket as it stands, and so loses quotes of its
own to the bracket. -/
def LosesQuotes (name : String) : Prop :=
  ('.' ∈ name.toList ∨ '[' ∈ name.toList) ∧ InQuotes name.toList

instance (name : String) : Decidable (LosesQuotes name) :=
  inferInstanceAs (Decidable (_ ∧ _))

end Path

namespace Segment

open ComposeLint.Path

/-- The segment that is read where this one was printed. -/
def reread : Segment → Segment
  | field name =>
    if name.toList.any isDelimiter then
      field (String.ofList ((unquoted? name.toList).getD name.toList))
    else field name
  | index n => index n

/-- A segment whose text reads as the segment. -/
def Printable : Segment → Prop
  | field name => name ≠ "" ∧ ']' ∉ name.toList ∧ ¬ LosesQuotes name
  | index n => n < indexBound

theorem Printable.readable {s : Segment} (h : s.Printable) : s.Readable := by
  cases s with
  | field name => exact ⟨h.1, h.2.1⟩
  | index n => exact h

theorem any_isDelimiter_iff {name : List Char} (hclose : ']' ∉ name) :
    name.any isDelimiter = true ↔ '.' ∈ name ∨ '[' ∈ name := by
  simp only [List.any_eq_true, isDelimiter, Bool.or_eq_true, decide_eq_true_eq]
  constructor
  · rintro ⟨c, hc, (rfl | rfl) | rfl⟩
    · exact .inl hc
    · exact .inr hc
    · exact absurd hc hclose
  · rintro (hc | hc)
    · exact ⟨_, hc, .inl (.inl rfl)⟩
    · exact ⟨_, hc, .inl (.inr rfl)⟩

/-- Reading changes the names that lose their quotes, and no other segment. -/
theorem reread_eq_self_iff {s : Segment} (h : s.Readable) :
    s.reread = s ↔ s.Printable := by
  cases s with
  | index n => exact iff_of_true rfl h
  | field name =>
      obtain ⟨hne, hclose⟩ := h
      simp only [reread, Printable, hne, hclose, LosesQuotes, ne_eq,
        not_false_eq_true, true_and, ← any_isDelimiter_iff hclose]
      split
      · next hany =>
          simp only [hany, true_and, ← unquoted?_eq_none_iff_not_inQuotes]
          cases hq : unquoted? name.toList with
          | none => simp
          | some inner =>
              obtain ⟨q, -, hname⟩ := unquoted?_eq_some hq
              have hlen := congrArg List.length hname
              simp only [List.length_cons, List.length_append, List.length_nil] at hlen
              simp only [Option.getD_some, field.injEq, reduceCtorEq, iff_false]
              intro heq
              rw [← heq, String.toList_ofList] at hlen
              omega
      · next hany => simp [hany]

/-! ## The notations -/

theorem isDelimiter_of_isDigit {c : Char} (h : c.isDigit = true) :
    isDelimiter c = false := by
  rw [Bool.eq_false_iff]
  intro hd
  simp only [isDelimiter, Bool.or_eq_true, decide_eq_true_eq] at hd
  rcases hd with (rfl | rfl) | rfl <;> exact absurd h (by decide)

theorem any_isDelimiter_of_isNumeral {name : List Char}
    (h : isNumeral name = true) : name.any isDelimiter = false := by
  rw [List.any_eq_false]
  intro c hc
  rw [isDelimiter_of_isDigit (List.all_eq_true.mp h c hc)]
  exact Bool.false_ne_true

/-- Digits in quotes are a name. -/
theorem holds_quoted {name : List Char} (hne : name ≠ []) :
    Holds ('\'' :: (name ++ ['\''])) (.field (String.ofList name)) := by
  refine .quoted ?_ hne
  rw [unquoted?, unquote?_eq_some_iff.mpr rfl, Option.some_or]

/-- A name with a delimiter is held as it stands, its own quotes apart. -/
theorem holds_reread {name : String} (hany : name.toList.any isDelimiter = true) :
    Holds name.toList (field name).reread := by
  have hnum : isNumeral name.toList = false := by
    rw [Bool.eq_false_iff]
    intro hdigits
    rw [any_isDelimiter_of_isNumeral hdigits] at hany
    cases hany
  rw [reread, if_pos hany]
  cases hq : unquoted? name.toList with
  | none => exact .name hq hnum
  | some inner =>
      refine .quoted hq ?_
      rintro rfl
      -- Two quotes and nothing else hold no delimiter.
      obtain ⟨q, hq, hname⟩ := unquoted?_eq_some hq
      simp only [List.mem_cons, List.not_mem_nil, or_false] at hq
      rcases hq with rfl | rfl <;> rw [hname] at hany <;> exact absurd hany (by decide)

/-- The digits of a number are its index. -/
theorem holds_index {n : Nat} (h : n < indexBound) :
    Holds (Nat.toDigits 10 n) (.index n) := by
  have hvalue : numeralValue (Nat.toDigits 10 n) = n := by
    have hdigits := Nat.ofDigitChars_ten_toDigits (n := n)
    rw [Nat.ofDigitChars_eq_foldl] at hdigits
    simpa only [numeralValue, Nat.mul_comm] using hdigits
  have hnum : isNumeral (Nat.toDigits 10 n) = true :=
    List.all_eq_true.mpr fun c hc =>
      Nat.isDigit_of_mem_toDigits (by decide) (by decide) hc
  have hholds := Holds.index Nat.toDigits_ne_nil hnum (by rw [hvalue]; exact h)
  rwa [hvalue] at hholds

theorem chars_field_of_isBare {name : String} (h : (field name).isBare = true) :
    (field name).chars = name.toList := by
  simp only [isBare, needsBrackets, Bool.not_eq_true', Bool.or_eq_false_iff] at h
  simp [chars, needsBrackets, h.1, h.2]

theorem chars_of_isBare {s : Segment} (h : s.Readable) (hbare : s.isBare = true) :
    IsName s.chars ∧ s.reread = .field (String.ofList s.chars) := by
  cases s with
  | index n => cases hbare
  | field name =>
      rw [chars_field_of_isBare hbare]
      simp only [isBare, needsBrackets, Bool.not_eq_true', Bool.or_eq_false_iff] at hbare
      refine ⟨⟨by simpa using h.1, ?_⟩, by simp [reread, hbare.1]⟩
      intro c hc
      simpa using List.any_eq_false.mp hbare.1 c hc

theorem exists_holds_of_not_isBare {s : Segment} (h : s.Readable)
    (hbare : s.isBare = false) :
    ∃ content, s.chars = inBrackets content ∧ ']' ∉ content ∧ Holds content s.reread := by
  cases s with
  | index n =>
      refine ⟨Nat.toDigits 10 n, rfl, ?_, holds_index h⟩
      intro hclose
      exact absurd (Nat.isDigit_of_mem_toDigits (by decide) (by decide) hclose)
        (by decide)
  | field name =>
      obtain ⟨hne, hclose⟩ := h
      by_cases hnum : isNumeral name.toList = true
      · refine ⟨'\'' :: (name.toList ++ ['\'']), by simp [chars, inBrackets, hnum], ?_, ?_⟩
        · simpa using hclose
        · have hholds := holds_quoted (show name.toList ≠ [] by simpa using hne)
          rw [String.ofList_toList] at hholds
          rwa [reread, if_neg (by simp [any_isDelimiter_of_isNumeral hnum])]
      · have hany : name.toList.any isDelimiter = true := by
          simpa [isBare, needsBrackets, hnum] using hbare
        exact ⟨name.toList, by simp [chars, inBrackets, needsBrackets, hnum, hany], hclose,
          holds_reread hany⟩

theorem chars_of_not_isBare {s : Segment} (h : s.Readable) (hbare : s.isBare = false) :
    ∃ content, IsContent content ∧ s.chars = inBrackets content ∧
      s.reread = contentSegment content := by
  obtain ⟨content, hchars, hclose, hholds⟩ := exists_holds_of_not_isBare h hbare
  obtain ⟨hcontent, hreread⟩ := (holds_iff hclose).mp hholds
  exact ⟨content, hcontent, hchars, hreread⟩

theorem firstItem_chars {s : Segment} (h : s.Readable) : FirstItem s.chars s.reread := by
  cases hbare : s.isBare with
  | true =>
      obtain ⟨hname, hreread⟩ := chars_of_isBare h hbare
      rw [hreread]
      exact .name hname
  | false =>
      obtain ⟨content, hcontent, hchars, hreread⟩ := chars_of_not_isBare h hbare
      rw [hchars, hreread]
      exact .bracket hcontent

theorem nextItem_charsAfter {s : Segment} (h : s.Readable) :
    NextItem s.charsAfter s.reread := by
  rw [charsAfter]
  cases hbare : s.isBare with
  | true =>
      obtain ⟨hname, hreread⟩ := chars_of_isBare h hbare
      rw [hreread]
      exact .name hname
  | false =>
      obtain ⟨content, hcontent, hchars, hreread⟩ := chars_of_not_isBare h hbare
      rw [hchars, hreread]
      exact .bracket hcontent

end Segment

namespace Path

open Segment

/-! ## Whole paths -/

/-- A printed path spells the path that comes back, segment by segment. -/
theorem spells_chars {path : Path} (h : ∀ s ∈ path, s.Readable) :
    Spells (chars path) (path.map reread) := by
  match path with
  | [] => exact .empty
  | s :: rest =>
      obtain ⟨hs, hrest⟩ := List.forall_mem_cons.mp h
      have hitems : List.Forall₂ NextItem (rest.map charsAfter) (rest.map reread) := by
        rw [List.forall₂_map_left_iff, List.forall₂_map_right_iff, List.forall₂_same]
        exact fun x hx => nextItem_charsAfter (hrest x hx)
      rw [chars, List.flatMap_def, List.map_cons]
      exact .items (firstItem_chars hs) hitems

/-- What is read where a path was printed: the path, but for the names that lose
their quotes. -/
theorem parse_render_of_readable {path : Path} (h : ∀ s ∈ path, s.Readable) :
    parse path.render = .ok (path.map reread) :=
  parse_of_spells (spells_chars h)

theorem map_reread_eq_self_iff {path : Path} (h : ∀ s ∈ path, s.Readable) :
    path.map reread = path ↔ ∀ s ∈ path, s.Printable := by
  have hmap := List.map_inj_left (l := path) (f := reread) (g := id)
  rw [List.map_id] at hmap
  rw [hmap]
  exact forall₂_congr fun s hs => reread_eq_self_iff (h s hs)

/-- A path reads as itself where it was printed exactly if no name in it is empty,
holds a closing bracket, or holds a dot or an opening bracket between quotes of
its own, and no index is too large for one. -/
theorem parse_render_eq_ok_iff (path : Path) :
    parse path.render = .ok path ↔ ∀ s ∈ path, s.Printable := by
  constructor
  · intro h
    have hread := readable_of_parse h
    rw [parse_render_of_readable hread, Except.ok.injEq] at h
    exact (map_reread_eq_self_iff hread).mp h
  · intro h
    have hread : ∀ s ∈ path, s.Readable := fun s hs => (h s hs).readable
    rw [parse_render_of_readable hread, (map_reread_eq_self_iff hread).mpr h]

/-- A path that was read is read again where it is printed, and comes back as it
was exactly if no name in it loses its quotes. -/
theorem parse_render_of_parse {text : String} {path : Path}
    (h : parse text = .ok path) :
    parse path.render = .ok (path.map reread) ∧
      (parse path.render = .ok path ↔
        ∀ name, .field name ∈ path → ¬ LosesQuotes name) := by
  have hread := readable_of_parse h
  have hrender := parse_render_of_readable hread
  refine ⟨hrender, ?_⟩
  rw [hrender, Except.ok.injEq, map_reread_eq_self_iff hread]
  constructor
  · intro hprint name hname
    exact (hprint _ hname).2.2
  · intro hkeep s hs
    have hs' := hread s hs
    cases s with
    | field name => exact ⟨hs'.1, hs'.2, hkeep name hs⟩
    | index n => exact hs'

theorem parse_render_of_parse_labels :
    parse "labels[\"'a.b'\"][7]" = .ok [.field "labels", .field "'a.b'", .index 7] ∧
      parse (render [.field "labels", .field "'a.b'", .index 7]) =
        .ok [.field "labels", .field "a.b", .index 7] ∧
      parse (render [.field "labels", .field "'a.b'", .index 7]) ≠
        .ok [.field "labels", .field "'a.b'", .index 7] := by
  have h : parse "labels[\"'a.b'\"][7]" =
      .ok [.field "labels", .field "'a.b'", .index 7] := rfl
  refine ⟨h, (parse_render_of_parse h).1, ?_⟩
  intro hself
  exact (parse_render_of_parse h).2.mp hself "'a.b'" (by simp) (by decide)

/-- The name between single quotes that a bracket in double quotes spells is
printed without the double ones, and read without the single ones. -/
theorem parse_render_of_parse_not_self :
    ¬ ∀ text path, parse text = .ok path → parse path.render = .ok path := by
  intro h
  have hself := h "[\"'a.b'\"]" [.field "'a.b'"] rfl
  have hlost : parse (render [.field "'a.b'"]) = .ok [.field "a.b"] := rfl
  rw [hlost, Except.ok.injEq] at hself
  exact absurd hself (by decide)

end Path

end ComposeLint
