import ComposeLint.Proofs.PathReader
import Mathlib.Data.List.Forall2

/-!
# The grammar of paths

A text is a path if it is empty, or an item and then any number of items that
follow others. `Spells` is that grammar together with the path of a derivation,
one segment an item, and `parse_eq_ok_iff_spells` says that the reader reads
exactly what the grammar spells.

A derivation is built from the left, and so is the reader's state, but the state
is not always a derivation: in the middle of an item some of the text is still
open. `Reader.Reached` says what a text that was read up to some place looks
like, a text that spells the complete items and then the beginning of one more.
Every step keeps it, and where the text may end the open item is complete too.
That the reader follows every derivation is the easier half, as it reads item by
item.
-/

namespace ComposeLint

namespace Path

/-- A name as it stands without brackets. -/
structure IsName (name : List Char) : Prop where
  ne_nil : name ≠ []
  bare : ∀ c ∈ name, isDelimiter c = false

/-- What may stand in a bracket: no closing bracket, quotes only around something,
and digits only of an index that is not too large. -/
structure IsContent (content : List Char) : Prop where
  ne_nil : content ≠ []
  bare : ']' ∉ content
  quotes : content ≠ ['\'', '\''] ∧ content ≠ ['"', '"']
  bounded : isNumeral content = true → numeralValue content < indexBound

/-- The segment of a bracket with that content. Quotes at both ends come off. -/
def contentSegment (content : List Char) : Segment :=
  if InQuotes content then .field (String.ofList content.tail.dropLast)
  else if isNumeral content then .index (numeralValue content)
  else .field (String.ofList content)

/-- A bracket with that content. -/
def inBrackets (content : List Char) : List Char := '[' :: (content ++ [']'])

/-- An item that a text may begin with. -/
inductive FirstItem : List Char → Segment → Prop where
  | name {name : List Char} : IsName name → FirstItem name (.field (String.ofList name))
  | bracket {content : List Char} : IsContent content →
      FirstItem (inBrackets content) (contentSegment content)

/-- An item after others. -/
inductive NextItem : List Char → Segment → Prop where
  | name {name : List Char} : IsName name →
      NextItem ('.' :: name) (.field (String.ofList name))
  | bracket {content : List Char} : IsContent content →
      NextItem (inBrackets content) (contentSegment content)

/-- The text spells the path, a segment with each of its items. -/
inductive Spells : List Char → Path → Prop where
  | empty : Spells [] []
  | items {first : List Char} {rest : List (List Char)} {s : Segment} {path : Path} :
      FirstItem first s → List.Forall₂ NextItem rest path →
      Spells (first ++ rest.flatten) (s :: path)

/-! ## Brackets -/

theorem isNumeral_of_inQuotes {content : List Char} (h : InQuotes content) :
    isNumeral content = false := by
  rw [Bool.eq_false_iff]
  intro hnum
  exact unquoted?_eq_none_iff_not_inQuotes.mp (unquoted?_of_isNumeral hnum) h

theorem unquoted?_of_inQuotes {content : List Char} (h : InQuotes content) :
    unquoted? content = some content.tail.dropLast := by
  cases hunquoted : unquoted? content with
  | none => exact absurd h (unquoted?_eq_none_iff_not_inQuotes.mp hunquoted)
  | some name =>
      obtain ⟨q, -, rfl⟩ := unquoted?_eq_some hunquoted
      rw [List.tail_cons, List.dropLast_concat]

theorem tail_dropLast_eq_nil_iff {content : List Char} (h : InQuotes content) :
    content.tail.dropLast = [] ↔ content = ['\'', '\''] ∨ content = ['"', '"'] := by
  obtain ⟨q, hq, inner, rfl⟩ := inQuotes_iff.mp h
  simp only [List.mem_cons, List.not_mem_nil, or_false] at hq
  rcases hq with rfl | rfl <;> simp [List.append_eq_singleton_iff]

/-- A bracket holds the segment of its content, if the content may stand in one. -/
theorem holds_iff {content : List Char} {s : Segment} (hbare : ']' ∉ content) :
    Holds content s ↔ IsContent content ∧ s = contentSegment content := by
  rw [contentSegment]
  constructor
  · intro h
    cases h with
    | quoted hq hne =>
        have hin : InQuotes content := by
          by_contra hout
          rw [unquoted?_eq_none_iff_not_inQuotes.mpr hout] at hq
          cases hq
        rw [unquoted?_of_inQuotes hin, Option.some.injEq] at hq
        subst hq
        rw [if_pos hin]
        rw [ne_eq, tail_dropLast_eq_nil_iff hin, not_or] at hne
        refine ⟨⟨?_, hbare, hne, ?_⟩, rfl⟩
        · rintro rfl
          cases hin.1
        · intro hnum
          rw [isNumeral_of_inQuotes hin] at hnum
          cases hnum
    | index hne hnum hlt =>
        have hout := unquoted?_eq_none_iff_not_inQuotes.mp (unquoted?_of_isNumeral hnum)
        rw [if_neg hout, if_pos hnum]
        refine ⟨⟨hne, hbare, ⟨?_, ?_⟩, fun _ => hlt⟩, rfl⟩ <;>
          · rintro rfl
            cases hnum
    | name hq hnum =>
        have hout := unquoted?_eq_none_iff_not_inQuotes.mp hq
        rw [if_neg hout, if_neg (by rw [hnum]; nofun)]
        refine ⟨⟨?_, hbare, ⟨?_, ?_⟩, ?_⟩, rfl⟩
        · rintro rfl
          cases hnum
        · rintro rfl
          exact hout (by decide)
        · rintro rfl
          exact hout (by decide)
        · rw [hnum]
          nofun
  · rintro ⟨h, rfl⟩
    split
    · next hin =>
        refine .quoted (unquoted?_of_inQuotes hin) ?_
        rw [ne_eq, tail_dropLast_eq_nil_iff hin, not_or]
        exact h.quotes
    · next hout =>
        split
        · next hnum => exact .index h.ne_nil hnum (h.bounded hnum)
        · next hnum =>
            exact .name (unquoted?_eq_none_iff_not_inQuotes.mpr hout)
              (Bool.eq_false_iff.mpr hnum)

/-! ## Derivations grow to the right -/

theorem Spells.append_items {text : List Char} {path segments : Path}
    {items : List (List Char)} (h : Spells text path) (hne : text ≠ [])
    (hitems : List.Forall₂ NextItem items segments) :
    Spells (text ++ items.flatten) (path ++ segments) := by
  cases h with
  | empty => exact absurd rfl hne
  | items hfirst hrest =>
      have hall := Spells.items hfirst (List.rel_append hrest hitems)
      rwa [List.flatten_append, ← List.append_assoc] at hall

theorem Spells.append {text item : List Char} {path : Path} {s : Segment}
    (h : Spells text path) (hne : text ≠ []) (hitem : NextItem item s) :
    Spells (text ++ item) (path ++ [s]) := by
  have hmore := h.append_items hne (.cons hitem .nil)
  rwa [List.flatten_singleton] at hmore

theorem FirstItem.ne_nil {item : List Char} {s : Segment} (h : FirstItem item s) :
    item ≠ [] := by
  cases h with
  | name hname => exact hname.ne_nil
  | bracket => exact List.cons_ne_nil _ _

/-- A bracket may stand anywhere between items. -/
theorem Spells.append_bracket {text content : List Char} {path : Path}
    (h : Spells text path) (hcontent : IsContent content) :
    Spells (text ++ inBrackets content) (path ++ [contentSegment content]) := by
  cases h with
  | empty =>
      have hitem := Spells.items (.bracket hcontent) .nil
      rwa [List.flatten_nil, List.append_nil] at hitem
  | items hfirst hrest =>
      exact (Spells.items hfirst hrest).append
        (List.append_ne_nil_of_left_ne_nil hfirst.ne_nil _) (.bracket hcontent)

theorem Spells.of_name {name : List Char} (h : IsName name) :
    Spells name [.field (String.ofList name)] := by
  have hitem := Spells.items (.name h) .nil
  rwa [List.flatten_nil, List.append_nil] at hitem

/-! ## What the reader has read -/

namespace Reader

/-- What was read before a place where a name may begin, and its path. -/
inductive Opens : List Char → Path → Place → Prop where
  | start : Opens [] [] .start
  | dot {text : List Char} {path : Path} : Spells text path → text ≠ [] →
      Opens (text ++ ['.']) path .dot

/-- What was read before a place, with the path of the items that are complete. -/
inductive Stands : List Char → Path → Place → Prop where
  | opens {before : List Char} {path : Path} {place : Place} :
      Opens before path place → Stands before path place
  | name {before read : List Char} {path : Path} {place : Place} :
      Opens before path place → Stands (before ++ read.reverse) path (.name read)
  | bracket {text read : List Char} {path : Path} : Spells text path →
      Stands (text ++ '[' :: read.reverse) path
        (.bracket (String.ofList text).utf8ByteSize read)
  | closed {text : List Char} {path : Path} : Spells text path →
      text.getLast? = some ']' → Stands text path .closed

/-- The reader comes here over this text. -/
structure Reached (before : List Char) (r : Reader) : Prop where
  sound : r.Sound
  position : r.position = (String.ofList before).utf8ByteSize
  stands : Stands before r.done r.place

theorem reached_initial : Reached [] initial where
  sound := sound_initial
  position := rfl
  stands := .opens .start

theorem Opens.spells {before name : List Char} {path : Path} {place : Place}
    (h : Opens before path place) (hname : IsName name) :
    Spells (before ++ name) (path ++ [.field (String.ofList name)]) := by
  cases h with
  | start => exact Spells.of_name hname
  | dot htext hne =>
      rw [List.append_assoc]
      exact htext.append hne (.name hname)

/-- Where the text may end, it spells the path. -/
theorem Reached.finish {before : List Char} {r : Reader} {path : Path}
    (h : Reached before r) (hfin : r.finish = .ok path) : Spells before path := by
  obtain ⟨position, done, place⟩ := r
  obtain ⟨hsound, -, hstands⟩ := h
  simp only [] at hstands
  rw [Reader.finish] at hfin
  cases hstands with
  | opens hopens =>
      cases hopens with
      | start => injection hfin with hfin; subst hfin; exact .empty
      | dot => cases hfin
  | name hopens =>
      injection hfin with hfin
      subst hfin
      obtain ⟨hne, hbare⟩ := hsound.name _ rfl
      exact hopens.spells ⟨by simpa using hne, by simpa using hbare⟩
  | bracket => cases hfin
  | closed htext => injection hfin with hfin; subst hfin; exact htext

theorem Reached.ne_nil {before : List Char} {r : Reader} (h : Reached before r)
    (hpl : r.place ≠ .start) : before ≠ [] := by
  obtain ⟨position, done, place⟩ := r
  obtain ⟨hsound, -, hstands⟩ := h
  simp only [] at hpl hstands
  cases hstands with
  | opens hopens =>
      cases hopens with
      | start => exact absurd rfl hpl
      | dot => simp
  | name => simp [(hsound.name _ rfl).1]
  | bracket => simp
  | closed _ hlast =>
      rintro rfl
      cases hlast

theorem Stands.opens_of_place {before : List Char} {path : Path} {place : Place}
    (h : Stands before path place) (hpl : place = .start ∨ place = .dot) :
    Opens before path place := by
  rcases hpl with rfl | rfl <;>
    · cases h with
      | opens hopens => exact hopens

theorem Stands.eq_nil_of_start {before : List Char} {path : Path}
    (h : Stands before path .start) : before = [] := by
  cases h with
  | opens hopens => cases hopens; rfl

theorem Stands.exists_dot {before : List Char} {path : Path}
    (h : Stands before path .dot) :
    ∃ text, Spells text path ∧ text ≠ [] ∧ before = text ++ ['.'] := by
  cases h with
  | opens hopens =>
      cases hopens with
      | dot htext hne => exact ⟨_, htext, hne, rfl⟩

theorem Stands.exists_opens {before read : List Char} {path : Path}
    (h : Stands before path (.name read)) :
    ∃ outside place, Opens outside path place ∧ before = outside ++ read.reverse := by
  cases h with
  | opens hopens => cases hopens
  | name hopens => exact ⟨_, _, hopens, rfl⟩

theorem Stands.exists_spells {before read : List Char} {path : Path} {opened : Nat}
    (h : Stands before path (.bracket opened read)) :
    ∃ text, Spells text path ∧ opened = (String.ofList text).utf8ByteSize ∧
      before = text ++ '[' :: read.reverse := by
  cases h with
  | opens hopens => cases hopens
  | bracket htext => exact ⟨_, htext, rfl, rfl⟩

theorem Stands.getLast?_of_closed {before : List Char} {path : Path}
    (h : Stands before path .closed) : before.getLast? = some ']' := by
  cases h with
  | opens hopens => cases hopens
  | closed _ hlast => exact hlast

/-- A step keeps what was reached. -/
theorem Reached.step {before : List Char} {r r' : Reader} {c : Char}
    (h : Reached before r) (hstep : r.step c = .ok r') :
    Reached (before ++ [c]) r' := by
  obtain ⟨hposition, hreads⟩ := reads_of_step hstep
  refine ⟨h.sound.step hstep, ?_, ?_⟩
  · rw [hposition, h.position]
    simp
  · obtain ⟨position, done, place⟩ := r'
    have hstands := h.stands
    simp only [] at hreads ⊢
    cases hreads with
    | opens hfin =>
        rw [h.position]
        exact @Stands.bracket before [] _ (h.finish hfin)
    | dot hfin hne => exact .opens (.dot (h.finish hfin) (h.ne_nil hne))
    | @first c hpl _ => exact @Stands.name before [c] _ _ (hstands.opens_of_place hpl)
    | letter hpl _ =>
        rw [hpl] at hstands
        obtain ⟨outside, place, hopens, rfl⟩ := hstands.exists_opens
        rw [List.append_assoc, ← List.reverse_cons]
        exact .name hopens
    | inside hpl _ =>
        rw [hpl] at hstands
        obtain ⟨text, htext, rfl, rfl⟩ := hstands.exists_spells
        rw [List.append_assoc, List.cons_append, ← List.reverse_cons]
        exact .bracket htext
    | closes hpl hholds =>
        have hbare := h.sound.bracket _ _ hpl
        rw [hpl] at hstands
        obtain ⟨text, htext, -, rfl⟩ := hstands.exists_spells
        obtain ⟨hcontent, rfl⟩ := (holds_iff (by simpa using hbare)).mp hholds
        rw [List.append_assoc, List.cons_append, ← inBrackets]
        refine .closed (htext.append_bracket hcontent) ?_
        rw [inBrackets, ← List.cons_append, ← List.append_assoc, List.getLast?_concat]

theorem Reached.run {text : List Char} {r r' : Reader} (h : Reached [] r)
    (hrun : text.foldlM Reader.step r = .ok r') : Reached text r' :=
  foldlM_inv (P := Reached) Reached.step h hrun

/-! ## The reader follows every derivation -/

theorem completes_first {item : List Char} {s : Segment} (h : FirstItem item s) :
    initial.Completes item [s] := by
  cases h with
  | name hname => exact completes_name hname.ne_nil hname.bare (.inl rfl)
  | bracket hcontent =>
      have hinitial : initial.finish = .ok [] := rfl
      exact completes_bracket hinitial hcontent.bare
        ((holds_iff hcontent.bare).mpr ⟨hcontent, rfl⟩)

theorem completes_next {item : List Char} {s : Segment} (h : NextItem item s)
    {r : Reader} {path : Path} (hpl : r.place ≠ .start)
    (hfin : r.finish = .ok path) : r.Completes item (path ++ [s]) := by
  cases h with
  | name hname => exact completes_dot_name hname.ne_nil hname.bare hpl hfin
  | bracket hcontent =>
      exact completes_bracket hfin hcontent.bare
        ((holds_iff hcontent.bare).mpr ⟨hcontent, rfl⟩)

theorem completes_items {items : List (List Char)} {segments : Path}
    (h : List.Forall₂ NextItem items segments) : ∀ {r : Reader} {path : Path},
      r.place ≠ .start → r.finish = .ok path →
        r.Completes items.flatten (path ++ segments) := by
  induction h with
  | nil =>
      intro r path hpl hfin
      rw [List.append_nil]
      exact completes_nil hpl hfin
  | cons hitem _ ih =>
      intro r path hpl hfin
      rw [List.flatten_cons, List.append_cons]
      exact (completes_next hitem hpl hfin).append fun r' => ih

end Reader

theorem parse_of_spells {text : List Char} {path : Path} (h : Spells text path) :
    parse (String.ofList text) = .ok path := by
  cases h with
  | empty => rfl
  | items hfirst hrest =>
      exact parse_of_completes
        ((Reader.completes_first hfirst).append fun r => Reader.completes_items hrest)

theorem spells_of_parse {text : List Char} {path : Path}
    (h : parse (String.ofList text) = .ok path) : Spells text path := by
  rw [parse, String.toList_ofList, parseChars, bind_eq_ok_iff] at h
  obtain ⟨r, hrun, hfin⟩ := h
  exact (Reader.reached_initial.run hrun).finish hfin

/-- The reader accepts the texts of the grammar, and gives the path that the text
spells. -/
theorem parse_eq_ok_iff_spells {text : String} {path : Path} :
    parse text = .ok path ↔ Spells text.toList path := by
  constructor
  · intro h
    rw [← String.ofList_toList (s := text)] at h
    exact spells_of_parse h
  · intro h
    have hparse := parse_of_spells h
    rwa [String.ofList_toList] at hparse

end Path

end ComposeLint
