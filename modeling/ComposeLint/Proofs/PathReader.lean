import ComposeLint.Path.Parser
import ComposeLint.Proofs.Outcomes

/-!
# What the reader of paths reads

The reader is a fold, so what holds of every path it returns is an invariant of
one step. `Reader.Sound` is that invariant: the items that are complete are
ones that some text spells, and the item that is open has not met a character
that would have ended it. Out of it comes `readable_of_parse`: a path that was
read has no empty name and no name with a closing bracket.

The other half is about runs over a known text. A run over a name or over the
content of a bracket only collects characters, and what a bracket gives is a
matter of its content alone. `unquote?_eq_some_iff` says what the quotes of a
bracket are, which is all that is ever used of `unquote?`.
-/

namespace ComposeLint

namespace Path

/-! ## The content of a bracket -/

theorem unquote?_eq_some_iff {q : Char} {content name : List Char} :
    unquote? q content = some name ↔ content = q :: (name ++ [q]) := by
  match content with
  | [] => simp [unquote?]
  | c :: rest =>
      simp only [unquote?, Option.ite_none_right_eq_some, Option.some.injEq,
        List.getLast?_eq_some_iff, List.cons.injEq]
      constructor
      · rintro ⟨⟨rfl, ys, rfl⟩, rfl⟩
        simp
      · rintro ⟨rfl, rfl⟩
        simp

/-- The text inside the quotes of a bracket, single quotes before double ones. -/
def unquoted? (content : List Char) : Option (List Char) :=
  (unquote? '\'' content).or (unquote? '"' content)

theorem unquoted?_eq_some {content name : List Char}
    (h : unquoted? content = some name) :
    ∃ q ∈ ['\'', '"'], content = q :: (name ++ [q]) := by
  rw [unquoted?, Option.or_eq_some_iff] at h
  rcases h with h | ⟨-, h⟩
  · exact ⟨'\'', by simp, unquote?_eq_some_iff.mp h⟩
  · exact ⟨'"', by simp, unquote?_eq_some_iff.mp h⟩

theorem unquoted?_eq_none_iff {content : List Char} :
    unquoted? content = none ↔
      ∀ q ∈ ['\'', '"'], ∀ name, content ≠ q :: (name ++ [q]) := by
  have hq (q : Char) : unquote? q content = none ↔
      ∀ name, content ≠ q :: (name ++ [q]) := by
    simp only [Option.eq_none_iff_forall_ne_some, ne_eq, unquote?_eq_some_iff]
  simp only [unquoted?, Option.or_eq_none_iff, hq, List.mem_cons,
    List.not_mem_nil, or_false, forall_eq_or_imp, forall_eq]

/-- Digits have no quotes around them. -/
theorem unquoted?_of_isNumeral {content : List Char}
    (h : isNumeral content = true) : unquoted? content = none := by
  rw [unquoted?_eq_none_iff]
  rintro q hq name rfl
  simp only [isNumeral, List.all_cons, Bool.and_eq_true] at h
  simp only [List.mem_cons, List.not_mem_nil, or_false] at hq
  rcases hq with rfl | rfl <;> exact absurd h.1 (by decide)

/-- A name that begins and ends with the same quote. -/
def InQuotes (name : List Char) : Prop :=
  2 ≤ name.length ∧
    ∃ q ∈ ['\'', '"'], name.head? = some q ∧ name.getLast? = some q

-- Said in full, as a search may find the instance that goes through all characters.
instance (name : List Char) : Decidable (InQuotes name) :=
  @instDecidableAnd _ _ (Nat.decLe _ _) (List.decidableBEx _ _)

theorem inQuotes_iff {name : List Char} :
    InQuotes name ↔ ∃ q ∈ ['\'', '"'], ∃ inner, name = q :: (inner ++ [q]) := by
  constructor
  · rintro ⟨hlen, q, hq, hhead, hlast⟩
    refine ⟨q, hq, ?_⟩
    match name with
    | [] => cases hhead
    | [_] => simp at hlen
    | a :: b :: rest =>
        injection hhead with hhead
        rw [List.getLast?_cons_cons, List.getLast?_eq_some_iff] at hlast
        obtain ⟨inner, hinner⟩ := hlast
        exact ⟨inner, by rw [hhead, hinner]⟩
  · rintro ⟨q, hq, inner, rfl⟩
    exact ⟨by simp, q, hq, by simp, by simp [List.getLast?_cons]⟩

theorem unquoted?_eq_none_iff_not_inQuotes {name : List Char} :
    unquoted? name = none ↔ ¬ InQuotes name := by
  rw [inQuotes_iff, unquoted?_eq_none_iff]
  simp only [not_exists, not_and, ne_eq]

/-- The segment that a bracket holds: quotes come off, digits are an index, and
anything else is a name as it stands. -/
inductive Holds (content : List Char) : Segment → Prop where
  | quoted {name : List Char} : unquoted? content = some name → name ≠ [] →
      Holds content (.field (String.ofList name))
  | index : content ≠ [] → isNumeral content = true →
      numeralValue content < indexBound →
      Holds content (.index (numeralValue content))
  | name : unquoted? content = none → isNumeral content = false →
      Holds content (.field (String.ofList content))

theorem bracket_eq_ok_iff {position : Nat} {content : List Char} {s : Segment} :
    bracket position content = .ok s ↔ Holds content s := by
  rw [bracket, ← unquoted?]
  constructor
  · intro h
    split at h
    · cases h
    · next hne =>
        split at h
        · cases h
        · next name hname hq =>
            injection h with h
            subst h
            exact .quoted hq fun hnil => hname (by rw [hnil])
        · next hq =>
            split at h
            · next hnum =>
                split at h
                · next hlt => injection h with h; subst h; exact .index hne hnum hlt
                · cases h
            · next hnum =>
                injection h with h
                subst h
                exact .name hq (by simpa using hnum)
  · intro h
    cases h with
    | quoted hq hne =>
        have hcontent : content ≠ [] := by
          rintro rfl
          simp [unquoted?, unquote?] at hq
        simp [hcontent, hq]
    | index hne hnum hlt =>
        simp [hne, unquoted?_of_isNumeral hnum, hnum, hlt]
    | name hq hnum =>
        have hne : content ≠ [] := by
          rintro rfl
          simp [isNumeral] at hnum
        simp [hne, hq, hnum]

end Path

/-- A segment that some text spells. No notation holds the empty name, and a
bracket cannot hold its own end. -/
def Segment.Readable : Segment → Prop
  | .field name => name ≠ "" ∧ ']' ∉ name.toList
  | .index n => n < Path.indexBound

namespace Path

theorem Holds.readable {content : List Char} {s : Segment}
    (h : Holds content s) (hclose : ']' ∉ content) : s.Readable := by
  cases h with
  | quoted hq hne =>
      obtain ⟨q, -, rfl⟩ := unquoted?_eq_some hq
      simp only [List.mem_cons, List.mem_append, not_or] at hclose
      exact ⟨by simpa using hne, by simpa using hclose.2.1⟩
  | index _ _ hlt => exact hlt
  | name _ hnum =>
      refine ⟨?_, by simpa using hclose⟩
      rw [ne_eq, String.ofList_eq_empty_iff]
      rintro rfl
      simp [isNumeral] at hnum

/-! ## What one character does -/

namespace Reader

/-- Reading a character in its six cases. An item that the text could end with
is closed by an opening bracket or, unless it is yet to come, by a dot. -/
inductive Reads (r : Reader) : Char → Path → Place → Prop where
  | opens {path : Path} : r.finish = .ok path →
      Reads r '[' path (.bracket r.position [])
  | dot {path : Path} : r.finish = .ok path → r.place ≠ .start →
      Reads r '.' path .dot
  | first {c : Char} : r.place = .start ∨ r.place = .dot →
      isDelimiter c = false → Reads r c r.done (.name [c])
  | letter {c : Char} {read : List Char} : r.place = .name read →
      isDelimiter c = false → Reads r c r.done (.name (c :: read))
  | inside {c : Char} {opened : Nat} {read : List Char} :
      r.place = .bracket opened read → c ≠ ']' →
      Reads r c r.done (.bracket opened (c :: read))
  | closes {opened : Nat} {read : List Char} {s : Segment} :
      r.place = .bracket opened read → Holds read.reverse s →
      Reads r ']' (r.done ++ [s]) .closed

theorem reads_of_step {r r' : Reader} {c : Char} (h : r.step c = .ok r') :
    r'.position = r.position + c.utf8Size ∧ r.Reads c r'.done r'.place := by
  obtain ⟨position, done, place⟩ := r
  have hdelim : ¬ c = '.' → ¬ c = '[' → ¬ c = ']' → isDelimiter c = false := by
    intro h₁ h₂ h₃
    simp [isDelimiter, h₁, h₂, h₃]
  cases place <;> simp only [step] at h
  case start =>
    split at h
    · next hc => subst hc; injection h with h; subst h; exact ⟨rfl, .opens rfl⟩
    · split at h
      · cases h
      · next hd =>
          injection h with h
          subst h
          exact ⟨rfl, .first (.inl rfl) (by simpa using hd)⟩
  case dot =>
    split at h
    · cases h
    · next hd =>
        injection h with h
        subst h
        exact ⟨rfl, .first (.inr rfl) (by simpa using hd)⟩
  case name read =>
    split at h
    · next hc =>
        subst hc
        injection h with h
        subst h
        exact ⟨rfl, .dot rfl (by simp)⟩
    · split at h
      · next hc => subst hc; injection h with h; subst h; exact ⟨rfl, .opens rfl⟩
      · split at h
        · cases h
        · injection h with h
          subst h
          exact ⟨rfl, .letter rfl (hdelim ‹_› ‹_› ‹_›)⟩
  case bracket opened read =>
    split at h
    · next hc =>
        subst hc
        cases hb : Path.bracket opened read.reverse with
        | error e => rw [hb] at h; cases h
        | ok s =>
            rw [hb] at h
            injection h with h
            subst h
            exact ⟨rfl, .closes rfl (bracket_eq_ok_iff.mp hb)⟩
    · next hc => injection h with h; subst h; exact ⟨rfl, .inside rfl hc⟩
  case closed =>
    split at h
    · next hc =>
        subst hc
        injection h with h
        subst h
        exact ⟨rfl, .dot rfl (by simp)⟩
    · split at h
      · next hc => subst hc; injection h with h; subst h; exact ⟨rfl, .opens rfl⟩
      · split at h <;> cases h

theorem step_of_reads {r : Reader} {c : Char} {done : Path} {place : Place}
    (h : r.Reads c done place) :
    r.step c = .ok ⟨r.position + c.utf8Size, done, place⟩ := by
  obtain ⟨position, before, here⟩ := r
  cases h with
  | opens hfin =>
      cases here <;> simp_all [step, finish]
  | dot hfin hne =>
      cases here <;> simp_all [step, finish]
  | first hpl hd =>
      rcases hpl with rfl | rfl
      · have hopen : c ≠ '[' := by rintro rfl; exact absurd hd (by decide)
        simp [step, hopen, hd]
      · simp [step, hd]
  | letter hpl hd =>
      subst hpl
      have hd' : (c ≠ '.' ∧ c ≠ '[') ∧ c ≠ ']' := by
        simpa [isDelimiter] using hd
      simp [step, hd']
  | inside hpl hc => subst hpl; simp [step, hc]
  | closes hpl hb =>
      subst hpl
      simp only [step, if_true, bracket_eq_ok_iff.mpr hb]
      rfl

/-! ## Runs

Positions are left open: an accepted run never looks at them. -/

/-- From here the text leads to these items and this place. -/
def Leads (r : Reader) (text : List Char) (done : Path) (place : Place) : Prop :=
  ∃ position, text.foldlM step r = .ok ⟨position, done, place⟩

theorem leads_nil (r : Reader) : r.Leads [] r.done r.place := ⟨r.position, rfl⟩

theorem leads_cons {r : Reader} {c : Char} {text : List Char}
    {done done' : Path} {place place' : Place} (hc : r.Reads c done place)
    (hrest : ∀ position, Leads ⟨position, done, place⟩ text done' place') :
    r.Leads (c :: text) done' place' := by
  obtain ⟨position, hrun⟩ := hrest (r.position + c.utf8Size)
  refine ⟨position, ?_⟩
  rw [List.foldlM_cons, step_of_reads hc]
  exact hrun

theorem Leads.append {r : Reader} {text rest : List Char}
    {done done' : Path} {place place' : Place} (h : r.Leads text done place)
    (hrest : ∀ position, Leads ⟨position, done, place⟩ rest done' place') :
    r.Leads (text ++ rest) done' place' := by
  obtain ⟨mid, hmid⟩ := h
  obtain ⟨position, hrun⟩ := hrest mid
  refine ⟨position, ?_⟩
  rw [List.foldlM_append, hmid]
  exact hrun

/-- The letters of a name are collected. -/
theorem leads_letters {letters : List Char}
    (hfree : ∀ c ∈ letters, isDelimiter c = false) :
    ∀ {r : Reader} {read : List Char}, r.place = .name read →
      r.Leads letters r.done (.name (letters.reverse ++ read)) := by
  induction letters with
  | nil =>
      intro r read hpl
      simpa [hpl] using leads_nil r
  | cons c rest ih =>
      intro r read hpl
      have hc := hfree c (by simp)
      refine leads_cons (.letter hpl hc) fun position => ?_
      simpa using ih (fun x hx => hfree x (by simp [hx]))
        (r := ⟨position, r.done, .name (c :: read)⟩) rfl

/-- The content of a bracket is collected up to its end. -/
theorem leads_content {content : List Char} (hclose : ']' ∉ content) :
    ∀ {r : Reader} {opened : Nat} {read : List Char},
      r.place = .bracket opened read →
      r.Leads content r.done (.bracket opened (content.reverse ++ read)) := by
  induction content with
  | nil =>
      intro r opened read hpl
      simpa [hpl] using leads_nil r
  | cons c rest ih =>
      intro r opened read hpl
      rw [List.mem_cons, not_or] at hclose
      refine leads_cons (.inside hpl (Ne.symm hclose.1)) fun position => ?_
      simpa using ih hclose.2
        (r := ⟨position, r.done, .bracket opened (c :: read)⟩) rfl

/-- A bracket is opened where the text could end, and collects its content. -/
theorem leads_open {r : Reader} {path : Path} {content : List Char}
    (hfin : r.finish = .ok path) (hclose : ']' ∉ content) :
    r.Leads ('[' :: content) path (.bracket r.position content.reverse) := by
  refine leads_cons (.opens hfin) fun position => ?_
  simpa using leads_content hclose (r := ⟨position, path, .bracket r.position []⟩) rfl

/-- From here the text leads to where it may end, with this path. -/
def Completes (r : Reader) (text : List Char) (path : Path) : Prop :=
  ∃ r', text.foldlM step r = .ok r' ∧ r'.place ≠ .start ∧ r'.finish = .ok path

theorem completes_nil {r : Reader} {path : Path} (hpl : r.place ≠ .start)
    (hfin : r.finish = .ok path) : r.Completes [] path := ⟨r, rfl, hpl, hfin⟩

theorem Completes.append {r : Reader} {text rest : List Char} {path path' : Path}
    (h : r.Completes text path)
    (hrest : ∀ r' : Reader, r'.place ≠ .start → r'.finish = .ok path →
      r'.Completes rest path') : r.Completes (text ++ rest) path' := by
  obtain ⟨mid, hmid, hpl, hfin⟩ := h
  obtain ⟨r', hrun, hend⟩ := hrest mid hpl hfin
  refine ⟨r', ?_, hend⟩
  rw [List.foldlM_append, hmid]
  exact hrun

/-- A name is read where one may begin. -/
theorem completes_name {name : List Char} (hne : name ≠ [])
    (hfree : ∀ c ∈ name, isDelimiter c = false) {r : Reader}
    (hpl : r.place = .start ∨ r.place = .dot) :
    r.Completes name (r.done ++ [.field (String.ofList name)]) := by
  match name with
  | [] => exact absurd rfl hne
  | c :: rest =>
      have hleads : r.Leads (c :: rest) r.done (.name (rest.reverse ++ [c])) := by
        refine leads_cons (.first hpl (hfree c (by simp))) fun position => ?_
        exact leads_letters (fun x hx => hfree x (by simp [hx]))
          (r := ⟨position, r.done, .name [c]⟩) rfl
      obtain ⟨position, hrun⟩ := hleads
      exact ⟨_, hrun, by simp, by simp [finish]⟩

/-- After a dot a name is read that follows others. -/
theorem completes_dot_name {name : List Char} (hne : name ≠ [])
    (hfree : ∀ c ∈ name, isDelimiter c = false) {r : Reader} {path : Path}
    (hpl : r.place ≠ .start) (hfin : r.finish = .ok path) :
    r.Completes ('.' :: name) (path ++ [.field (String.ofList name)]) := by
  obtain ⟨r', hrun, hend⟩ := completes_name hne hfree
    (r := ⟨r.position + '.'.utf8Size, path, .dot⟩) (.inr rfl)
  refine ⟨r', ?_, hend⟩
  rw [List.foldlM_cons, step_of_reads (.dot hfin hpl)]
  exact hrun

/-- A whole bracket adds the segment that it holds. -/
theorem completes_bracket {content : List Char} {s : Segment} {r : Reader}
    {path : Path} (hfin : r.finish = .ok path) (hclose : ']' ∉ content)
    (hs : Holds content s) :
    r.Completes ('[' :: (content ++ [']'])) (path ++ [s]) := by
  have hleads : r.Leads ('[' :: (content ++ [']'])) (path ++ [s]) .closed := by
    refine (leads_open hfin hclose).append fun position => ?_
    exact leads_cons (.closes rfl (by simpa using hs)) fun _ => leads_nil _
  obtain ⟨position, hrun⟩ := hleads
  exact ⟨_, hrun, by simp, rfl⟩

/-! ## The invariant of the reader -/

/-- What the reader has, position aside: complete items that some text spells,
and an open item whose characters do not end it. -/
structure Sound (r : Reader) : Prop where
  done : ∀ s ∈ r.done, s.Readable
  name : ∀ read, r.place = .name read →
    read ≠ [] ∧ ∀ c ∈ read, isDelimiter c = false
  bracket : ∀ opened read, r.place = .bracket opened read → ']' ∉ read

theorem sound_initial : initial.Sound where
  done := by simp [initial]
  name := by simp [initial]
  bracket := by simp [initial]

/-- Where the text may end, the item that ends with it is one that can be spelled. -/
theorem Sound.finish {r : Reader} (h : r.Sound) {path : Path}
    (hfin : r.finish = .ok path) : ∀ s ∈ path, s.Readable := by
  rw [Reader.finish] at hfin
  split at hfin
  · injection hfin with hfin; subst hfin; exact h.done
  · injection hfin with hfin; subst hfin; exact h.done
  · cases hfin
  · next read hpl =>
      injection hfin with hfin
      subst hfin
      obtain ⟨hne, hfree⟩ := h.name read hpl
      have hclose : ']' ∉ read := fun hmem => absurd (hfree _ hmem) (by decide)
      intro s hs
      rcases List.mem_append.mp hs with hs | hs
      · exact h.done s hs
      · rw [List.mem_singleton.mp hs]
        simp [Segment.Readable, hne, hclose]
  · cases hfin

theorem Sound.step {r r' : Reader} {c : Char} (h : r.Sound)
    (hstep : r.step c = .ok r') : r'.Sound := by
  obtain ⟨-, hreads⟩ := reads_of_step hstep
  obtain ⟨position, done, place⟩ := r'
  simp only [] at hreads
  cases hreads with
  | opens hfin => exact ⟨h.finish hfin, by simp, by simp⟩
  | dot hfin => exact ⟨h.finish hfin, by simp, by simp⟩
  | first _ hd => exact ⟨h.done, by simp [hd], by simp⟩
  | letter hpl hd =>
      obtain ⟨-, hfree⟩ := h.name _ hpl
      refine ⟨h.done, ?_, by simp⟩
      intro read hread
      injection hread with hread
      subst hread
      exact ⟨by simp, by simpa [hd] using hfree⟩
  | inside hpl hc =>
      have hclose := h.bracket _ _ hpl
      refine ⟨h.done, by simp, ?_⟩
      intro opened read hread
      injection hread with _ hread
      subst hread
      simp [hclose, Ne.symm hc]
  | closes hpl hb =>
      have hclose := h.bracket _ _ hpl
      refine ⟨?_, by simp, by simp⟩
      intro s hs
      rcases List.mem_append.mp hs with hs | hs
      · exact h.done s hs
      · rw [List.mem_singleton.mp hs]
        exact hb.readable (by simpa using hclose)

theorem Sound.run {text : List Char} {r r' : Reader} (h : r.Sound)
    (hrun : text.foldlM Reader.step r = .ok r') : r'.Sound :=
  foldlM_inv (P := fun _ => Sound) Sound.step h hrun

end Reader

theorem parse_of_completes {text : List Char} {path : Path}
    (h : Reader.initial.Completes text path) :
    parse (String.ofList text) = .ok path := by
  obtain ⟨r, hrun, -, hfin⟩ := h
  rw [parse, String.toList_ofList, parseChars, hrun]
  exact hfin

/-- A path that was read has only segments that some text spells. -/
theorem readable_of_parse {text : String} {path : Path}
    (h : parse text = .ok path) : ∀ s ∈ path, s.Readable := by
  rw [parse, parseChars, bind_eq_ok_iff] at h
  obtain ⟨r, hrun, hfin⟩ := h
  exact (Reader.sound_initial.run hrun).finish hfin

end Path

end ComposeLint
