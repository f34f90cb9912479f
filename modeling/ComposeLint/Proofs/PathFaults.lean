import ComposeLint.Proofs.PathGrammar

/-!
# Where a text stops being a path

An error of the reader carries a position, and means the first fault of the text:
the text is cut in two there, and what stands before the cut is a path, or a path
and the dot that a name should have followed. `FaultAt` says of each error what it
has to do with the two halves, and `parse_eq_error_iff` that the reader reports an
error exactly if it is the fault at some cut. Positions are the bytes before the
cut, so none falls inside a character.

A fault is a character that the reader refuses, or the end of the text, and
`Reader.Refuses` says what is refused, for both directions. The reader notices a fault
later than it stands, at the end of a bracket or of the text. So what it has read
(`Reader.Reached`) is not what stands before the cut, and the two are told apart by
the place: only in a bracket do they differ.
-/

namespace ComposeLint

namespace Path

/-- The text is that of a path. -/
def Parses (text : List Char) : Prop := ∃ path, parse (String.ofList text) = .ok path

/-- What is wrong with a text that is cut in two here. -/
inductive FaultAt : List Char → List Char → PathError → Prop where
  /-- No name before a dot at the beginning, or before a closing bracket there. -/
  | noFirst {c : Char} {rest : List Char} : c = '.' ∨ c = ']' →
      FaultAt [] (c :: rest) (.emptyField 0)
  /-- No name after a dot. -/
  | noNext {text after : List Char} : Parses text → text ≠ [] →
      (∀ c ∈ after.head?, isDelimiter c = true) →
      FaultAt (text ++ ['.']) after
        (.emptyField (String.ofList (text ++ ['.'])).utf8ByteSize)
  | unclosed {before content : List Char} : Parses before → ']' ∉ content →
      FaultAt before ('[' :: content)
        (.unclosedBracket (String.ofList before).utf8ByteSize)
  | emptyBracket {before content rest : List Char} : Parses before →
      content ∈ [[], ['\'', '\''], ['"', '"']] →
      FaultAt before (inBrackets content ++ rest)
        (.emptyBracket (String.ofList before).utf8ByteSize)
  | indexTooLarge {before digits rest : List Char} : Parses before →
      isNumeral digits = true → indexBound ≤ numeralValue digits →
      FaultAt before (inBrackets digits ++ rest)
        (.indexTooLarge (String.ofList digits))
  | unopened {before rest : List Char} : Parses before → before ≠ [] →
      FaultAt before (']' :: rest)
        (.unexpectedClosingBracket (String.ofList before).utf8ByteSize)
  /-- A name right after a bracket. -/
  | noDot {before rest : List Char} {c : Char} : Parses before →
      before.getLast? = some ']' → isDelimiter c = false →
      FaultAt before (c :: rest)
        (.unexpectedCharacter c (String.ofList before).utf8ByteSize)

theorem parses_of_spells {text : List Char} {path : Path} (h : Spells text path) :
    Parses text := ⟨path, parse_of_spells h⟩

/-- A bracket holds no segment if it is empty or its index is too large. -/
theorem bracket_eq_error_iff {position : Nat} {content : List Char} {e : PathError} :
    bracket position content = .error e ↔
      (content ∈ [[], ['\'', '\''], ['"', '"']] ∧ e = .emptyBracket position) ∨
        (isNumeral content = true ∧ indexBound ≤ numeralValue content ∧
          e = .indexTooLarge (String.ofList content)) := by
  rw [bracket, ← unquoted?]
  constructor
  · intro h
    split at h
    · next hnil =>
        injection h with h
        exact .inl ⟨by simp [hnil], h.symm⟩
    · split at h
      · next hempty =>
          injection h with h
          obtain ⟨q, hq, rfl⟩ := unquoted?_eq_some hempty
          refine .inl ⟨?_, h.symm⟩
          simpa using hq
      · cases h
      · split at h
        · next hnum =>
            split at h
            · cases h
            · next hlt =>
                injection h with h
                exact .inr ⟨hnum, Nat.le_of_not_lt hlt, h.symm⟩
        · cases h
  · rintro (⟨hcontent, rfl⟩ | ⟨hnum, hle, rfl⟩)
    · simp only [List.mem_cons, List.not_mem_nil, or_false] at hcontent
      rcases hcontent with rfl | rfl | rfl <;> rfl
    · have hne : content ≠ [] := by
        rintro rfl
        exact absurd hle (by decide)
      rw [if_neg hne, unquoted?_of_isNumeral hnum]
      simp only [hnum, if_true, if_neg (Nat.not_lt_of_le hle)]

namespace Reader

/-- Refusing a character. Only a bracket that closes is refused for what was read
before. -/
inductive Refuses (r : Reader) : Char → PathError → Prop where
  | noFirst {c : Char} : r.place = .start → c = '.' ∨ c = ']' →
      Refuses r c (.emptyField r.position)
  | noNext {c : Char} : r.place = .dot → isDelimiter c = true →
      Refuses r c (.emptyField r.position)
  | content {opened : Nat} {read : List Char} {e : PathError} :
      r.place = .bracket opened read → Path.bracket opened read.reverse = .error e →
      Refuses r ']' e
  | unopened {path : Path} : r.finish = .ok path → r.place ≠ .start →
      Refuses r ']' (.unexpectedClosingBracket r.position)
  | noDot {c : Char} : r.place = .closed → isDelimiter c = false →
      Refuses r c (.unexpectedCharacter c r.position)

theorem refuses_of_step {r : Reader} {c : Char} {e : PathError}
    (h : r.step c = .error e) : r.Refuses c e := by
  obtain ⟨position, done, place⟩ := r
  cases place <;> simp only [step] at h
  case start =>
    split at h
    · cases h
    · next hopen =>
        split at h
        · next hdelim =>
            injection h with h
            subst h
            exact .noFirst rfl (by simpa [isDelimiter, hopen] using hdelim)
        · cases h
  case dot =>
    split at h
    · next hdelim => injection h with h; subst h; exact .noNext rfl hdelim
    · cases h
  case name read =>
    split at h
    · cases h
    · split at h
      · cases h
      · split at h
        · next hclose =>
            injection h with h
            subst h hclose
            exact .unopened rfl (by simp)
        · cases h
  case bracket opened read =>
    split at h
    · next hclose =>
        subst hclose
        rw [bind_eq_error_iff] at h
        rcases h with hcontent | ⟨_, _, h⟩
        · exact .content rfl hcontent
        · cases h
    · cases h
  case closed =>
    split at h
    · cases h
    · next hdot =>
        split at h
        · cases h
        · next hopen =>
            split at h
            · next hclose =>
                injection h with h
                subst h hclose
                exact .unopened rfl (by simp)
            · next hclose =>
                injection h with h
                subst h
                exact .noDot rfl (by simp [isDelimiter, hdot, hopen, hclose])

theorem step_of_refuses {r : Reader} {c : Char} {e : PathError} (h : r.Refuses c e) :
    r.step c = .error e := by
  obtain ⟨position, done, place⟩ := r
  cases h with
  | noFirst hpl hc => subst hpl; rcases hc with rfl | rfl <;> rfl
  | noNext hpl hdelim => subst hpl; simp [step, hdelim]
  | content hpl hcontent => subst hpl; simp only [step, if_true, hcontent]; rfl
  | unopened hfin hpl =>
      cases place with
      | start => exact absurd rfl hpl
      | dot => cases hfin
      | name => rfl
      | bracket => cases hfin
      | closed => rfl
  | noDot hpl hdelim =>
      subst hpl
      have hdelim' : (c ≠ '.' ∧ c ≠ '[') ∧ c ≠ ']' := by simpa [isDelimiter] using hdelim
      simp [step, hdelim']

/-- A character that cannot be read is the fault of a cut before it, or before the
bracket that it closes. -/
theorem Reached.faultAt_of_step {before : List Char} {r : Reader} {c : Char}
    {e : PathError} (h : Reached before r) (hstep : r.step c = .error e)
    (rest : List Char) :
    ∃ front back, before ++ c :: rest = front ++ back ∧ FaultAt front back e := by
  have hstands := h.stands
  cases refuses_of_step hstep with
  | noFirst hpl hc =>
      rw [hpl] at hstands
      obtain rfl := hstands.eq_nil_of_start
      rw [h.position]
      exact ⟨[], c :: rest, rfl, .noFirst hc⟩
  | noNext hpl hdelim =>
      rw [hpl] at hstands
      obtain ⟨text, htext, hne, rfl⟩ := hstands.exists_dot
      rw [h.position]
      exact ⟨_, _, rfl, .noNext (parses_of_spells htext) hne (by simpa using hdelim)⟩
  | @content opened read e hpl hcontent =>
      rw [hpl] at hstands
      obtain ⟨text, htext, rfl, rfl⟩ := hstands.exists_spells
      refine ⟨text, inBrackets read.reverse ++ rest, by simp [inBrackets], ?_⟩
      rcases bracket_eq_error_iff.mp hcontent with ⟨hempty, rfl⟩ | ⟨hnum, hle, rfl⟩
      · exact .emptyBracket (parses_of_spells htext) hempty
      · exact .indexTooLarge (parses_of_spells htext) hnum hle
  | unopened hfin hpl =>
      rw [h.position]
      exact ⟨before, _, rfl, .unopened (parses_of_spells (h.finish hfin)) (h.ne_nil hpl)⟩
  | noDot hpl hdelim =>
      have hfin : r.finish = .ok r.done := by rw [Reader.finish, hpl]
      rw [hpl] at hstands
      rw [h.position]
      exact ⟨before, _, rfl,
        .noDot (parses_of_spells (h.finish hfin)) hstands.getLast?_of_closed hdelim⟩

/-- A text that cannot end is at fault there, or where its last bracket opens. -/
theorem Reached.faultAt_of_finish {text : List Char} {r : Reader} {e : PathError}
    (h : Reached text r) (hfin : r.finish = .error e) :
    ∃ front back, text = front ++ back ∧ FaultAt front back e := by
  obtain ⟨position, done, place⟩ := r
  obtain ⟨hsound, hposition, hstands⟩ := h
  simp only [] at hstands hposition
  subst hposition
  cases place <;> simp only [Reader.finish] at hfin <;> cases hfin
  case dot =>
    obtain ⟨front, hfront, hne, rfl⟩ := hstands.exists_dot
    exact ⟨_, [], (List.append_nil _).symm, .noNext (parses_of_spells hfront) hne (by simp)⟩
  case bracket opened read =>
    obtain ⟨front, hfront, rfl, rfl⟩ := hstands.exists_spells
    have hbare := hsound.bracket _ _ rfl
    exact ⟨front, _, rfl, .unclosed (parses_of_spells hfront) (by simpa using hbare)⟩

end Reader

theorem exists_faultAt_of_parse {text : List Char} {e : PathError}
    (h : parse (String.ofList text) = .error e) :
    ∃ front back, text = front ++ back ∧ FaultAt front back e := by
  rw [parse, String.toList_ofList, parseChars, bind_eq_error_iff] at h
  rcases h with h | ⟨r, hrun, hfin⟩
  · obtain ⟨before, c, rest, r, rfl, hrun, hstep⟩ := foldlM_eq_error_iff.mp h
    exact (Reader.reached_initial.run hrun).faultAt_of_step hstep rest
  · exact (Reader.reached_initial.run hrun).faultAt_of_finish hfin

/-! ## Every fault is reported -/

namespace Reader

/-- From here the text ends in this error. -/
def Fails (r : Reader) (text : List Char) (e : PathError) : Prop :=
  text.foldlM step r = .error e ∨ ∃ r', text.foldlM step r = .ok r' ∧ r'.finish = .error e

theorem fails_of_refuses {r : Reader} {c : Char} {e : PathError} (h : r.Refuses c e)
    (rest : List Char) : r.Fails (c :: rest) e := by
  left
  rw [List.foldlM_cons, step_of_refuses h]
  rfl

theorem Leads.fails {r : Reader} {text rest : List Char} {done : Path} {place : Place}
    {e : PathError} (h : r.Leads text done place)
    (hrest : ∀ position, Fails ⟨position, done, place⟩ rest e) :
    r.Fails (text ++ rest) e := by
  obtain ⟨position, hrun⟩ := h
  rw [Fails, List.foldlM_append, hrun]
  exact hrest position

theorem fails_bracket {r : Reader} {path : Path} {content rest : List Char}
    {e : PathError} (hfin : r.finish = .ok path) (hbare : ']' ∉ content)
    (hcontent : Path.bracket r.position content = .error e) :
    r.Fails (inBrackets content ++ rest) e := by
  have hclose (position : Nat) :
      Refuses ⟨position, path, .bracket r.position content.reverse⟩ ']' e :=
    .content rfl (by rwa [List.reverse_reverse])
  have hfails := (leads_open hfin hbare).fails fun position =>
    fails_of_refuses (hclose position) rest
  simpa [inBrackets] using hfails

theorem Reached.place_ne_start {before : List Char} {r : Reader} (h : Reached before r)
    (hne : before ≠ []) : r.place ≠ .start := by
  obtain ⟨position, done, place⟩ := r
  rintro rfl
  exact hne h.stands.eq_nil_of_start

/-- No name ends with a closing bracket, so a bracket was closed. -/
theorem Reached.place_eq_closed {before : List Char} {r : Reader} {path : Path}
    (h : Reached before r) (hfin : r.finish = .ok path)
    (hlast : before.getLast? = some ']') : r.place = .closed := by
  obtain ⟨position, done, place⟩ := r
  obtain ⟨hsound, -, hstands⟩ := h
  simp only [] at hstands
  cases place with
  | start =>
      obtain rfl := hstands.eq_nil_of_start
      cases hlast
  | dot => cases hfin
  | name read =>
      obtain ⟨hne, hbare⟩ := hsound.name _ rfl
      obtain ⟨outside, _, -, rfl⟩ := hstands.exists_opens
      obtain ⟨c, read, rfl⟩ := List.exists_cons_of_ne_nil hne
      rw [List.reverse_cons, ← List.append_assoc, List.getLast?_concat] at hlast
      injection hlast with hlast
      subst hlast
      exact absurd (hbare _ List.mem_cons_self) (by decide)
  | bracket => cases hfin
  | closed => rfl

end Reader

theorem exists_reached_of_parses {text : List Char} (h : Parses text) :
    ∃ r path, text.foldlM Reader.step .initial = .ok r ∧ Reader.Reached text r ∧
      r.finish = .ok path := by
  obtain ⟨path, h⟩ := h
  rw [parse, String.toList_ofList, parseChars, bind_eq_ok_iff] at h
  obtain ⟨r, hrun, hfin⟩ := h
  exact ⟨r, path, hrun, Reader.reached_initial.run hrun, hfin⟩

theorem parse_of_fails {text rest : List Char} {r : Reader} {e : PathError}
    (hrun : text.foldlM Reader.step .initial = .ok r) (h : r.Fails rest e) :
    parse (String.ofList (text ++ rest)) = .error e := by
  rw [parse, String.toList_ofList, parseChars, bind_eq_error_iff, List.foldlM_append, hrun]
  exact h

theorem parse_of_faultAt {before after : List Char} {e : PathError}
    (h : FaultAt before after e) : parse (String.ofList (before ++ after)) = .error e := by
  cases h with
  | noFirst hc => exact parse_of_fails rfl (Reader.fails_of_refuses (.noFirst rfl hc) _)
  | @noNext text after htext hne hafter =>
      obtain ⟨r, path, hrun, hreached, hfin⟩ := exists_reached_of_parses htext
      have hpl := hreached.place_ne_start hne
      have hdot := Reader.step_of_reads (.dot hfin hpl)
      have hrun' : (text ++ ['.']).foldlM Reader.step .initial =
          .ok ⟨r.position + '.'.utf8Size, path, .dot⟩ := by
        rw [List.foldlM_append, hrun]
        exact congrArg (· >>= pure) hdot
      have hposition := (hreached.step hdot).position
      rw [← hposition]
      refine parse_of_fails hrun' ?_
      cases after with
      | nil => exact .inr ⟨_, rfl, rfl⟩
      | cons c rest => exact Reader.fails_of_refuses (.noNext rfl (hafter c rfl)) rest
  | @unclosed before content hbefore hbare =>
      obtain ⟨r, path, hrun, hreached, hfin⟩ := exists_reached_of_parses hbefore
      rw [← hreached.position]
      have hfails : r.Fails ('[' :: content ++ []) (.unclosedBracket r.position) :=
        (Reader.leads_open hfin hbare).fails fun _ => .inr ⟨_, rfl, rfl⟩
      rw [List.append_nil] at hfails
      exact parse_of_fails hrun hfails
  | @emptyBracket before content rest hbefore hcontent =>
      obtain ⟨r, path, hrun, hreached, hfin⟩ := exists_reached_of_parses hbefore
      rw [← hreached.position]
      refine parse_of_fails hrun (Reader.fails_bracket hfin ?_ ?_)
      · simp only [List.mem_cons, List.not_mem_nil, or_false] at hcontent
        rcases hcontent with rfl | rfl | rfl <;> decide
      · exact bracket_eq_error_iff.mpr (.inl ⟨hcontent, rfl⟩)
  | indexTooLarge hbefore hnum hle =>
      obtain ⟨r, path, hrun, hreached, hfin⟩ := exists_reached_of_parses hbefore
      refine parse_of_fails hrun (Reader.fails_bracket hfin ?_ ?_)
      · intro hclose
        exact absurd (List.all_eq_true.mp hnum _ hclose) (by decide)
      · exact bracket_eq_error_iff.mpr (.inr ⟨hnum, hle, rfl⟩)
  | unopened hbefore hne =>
      obtain ⟨r, path, hrun, hreached, hfin⟩ := exists_reached_of_parses hbefore
      rw [← hreached.position]
      exact parse_of_fails hrun
        (Reader.fails_of_refuses (.unopened hfin (hreached.place_ne_start hne)) _)
  | @noDot before rest c hbefore hlast hc =>
      obtain ⟨r, path, hrun, hreached, hfin⟩ := exists_reached_of_parses hbefore
      rw [← hreached.position]
      have hpl := hreached.place_eq_closed hfin hlast
      exact parse_of_fails hrun (Reader.fails_of_refuses (.noDot hpl hc) rest)

/-- The reader reports an error exactly if the text can be cut where that is its
fault. -/
theorem parse_eq_error_iff {text : String} {e : PathError} :
    parse text = .error e ↔
      ∃ before after, text.toList = before ++ after ∧ FaultAt before after e := by
  constructor
  · intro h
    rw [← String.ofList_toList (s := text)] at h
    exact exists_faultAt_of_parse h
  · rintro ⟨before, after, htext, h⟩
    have hparse := parse_of_faultAt h
    rwa [← htext, String.ofList_toList] at hparse

/-- The first letter takes two bytes. -/
example : parse "é[a]b" = .error (.unexpectedCharacter 'b' 5) := rfl

end Path

end ComposeLint
