import ComposeLint.Finding
import ComposeLint.Proofs.ShapeFaults
import ComposeLint.Text.Quoted

/-!
# Text without control characters

A line of text may hold anything but control characters, of which the line break is
one. Numbers are plain, and so is whatever stands in quotes: both ways of quoting, that
of messages and that of values, spell a control character by others. So the text of a
value is plain whatever the value holds (`Json.plain_chars`).

Other texts are plain but for what was put into them as it was: the text of a path, in
which names are not quoted, or a message. Such a text is woven from plain text and from
texts of some kind (`Woven`), and a control character in it comes from one of these.
-/

namespace ComposeLint

/-- A control character, such as a tab or a line break. -/
def IsControl (c : Char) : Prop := c.toNat < 0x20

instance : DecidablePred IsControl := fun c => Nat.decLt c.toNat 0x20

/-- No character is a control character. -/
def Plain (cs : List Char) : Prop := ∀ c ∈ cs, ¬ IsControl c

instance : DecidablePred Plain := List.decidableBAll (¬ IsControl ·)

namespace Plain

variable {c : Char} {cs cs' : List Char}

theorem nil : Plain [] := nofun

theorem cons (hc : ¬ IsControl c) (h : Plain cs) : Plain (c :: cs) :=
  List.forall_mem_cons.mpr ⟨hc, h⟩

theorem append (h : Plain cs) (h' : Plain cs') : Plain (cs ++ cs') :=
  List.forall_mem_append.mpr ⟨h, h'⟩

protected theorem ite {p : Prop} [Decidable p] (h : p → Plain cs) (h' : ¬ p → Plain cs') :
    Plain (if p then cs else cs') := by
  split
  · next hp => exact h hp
  · next hp => exact h' hp

protected theorem flatMap {α : Type} {l : List α} {f : α → List Char}
    (h : ∀ x ∈ l, Plain (f x)) : Plain (l.flatMap f) := by
  intro c hc
  obtain ⟨x, hx, hc⟩ := List.mem_flatMap.mp hc
  exact h x hx c hc

/-- What is left of a plain text is plain. -/
theorem subset (h : Plain cs') (hsub : cs ⊆ cs') : Plain cs := fun c hc => h c (hsub hc)

protected theorem replicate (n : Nat) (h : ¬ IsControl c) : Plain (List.replicate n c) := by
  intro c' hc'
  rw [List.eq_of_mem_replicate hc']
  exact h

theorem ofList (h : Plain cs) : Plain (String.ofList cs).toList := by
  rw [String.toList_ofList]
  exact h

/-- Text that is written out is plain if it can be seen to be. -/
theorem literal (h : Plain cs := by decide) : Plain (String.ofList cs).toList := h.ofList

theorem concat {s s' : String} (h : Plain s.toList) (h' : Plain s'.toList) :
    Plain (s ++ s').toList := by
  rw [String.toList_append]
  exact h.append h'

end Plain

/-- A text woven from plain text and from texts with a property. -/
inductive Woven (P : String → Prop) : List Char → Prop where
  | plain {cs : List Char} (h : Plain cs) : Woven P cs
  | text {s : String} (h : P s) : Woven P s.toList
  | append {cs cs' : List Char} (h : Woven P cs) (h' : Woven P cs') : Woven P (cs ++ cs')

namespace Woven

variable {P Q : String → Prop} {cs : List Char}

theorem cons {c : Char} (hc : ¬ IsControl c) (h : Woven P cs) : Woven P (c :: cs) :=
  .append (.plain (.cons hc .nil)) h

theorem literal (h : Plain cs := by decide) : Woven P (String.ofList cs).toList :=
  .plain h.ofList

theorem concat {s s' : String} (h : Woven P s.toList) (h' : Woven P s'.toList) :
    Woven P (s ++ s').toList := by
  rw [String.toList_append]
  exact .append h h'

/-- A text woven from plain text alone is plain. -/
theorem plain_of (h : ∀ s, P s → Plain s.toList) (hcs : Woven P cs) : Plain cs := by
  induction hcs with
  | plain hcs => exact hcs
  | text hs => exact h _ hs
  | append _ _ ih ih' => exact ih.append ih'

theorem mono (h : ∀ s, P s → Q s) (hcs : Woven P cs) : Woven Q cs := by
  induction hcs with
  | plain hcs => exact .plain hcs
  | text hs => exact .text (h _ hs)
  | append _ _ ih ih' => exact .append ih ih'

/-- What is not plain about a text comes from one of the texts woven into it. -/
theorem exists_of_mem (h : Woven P cs) {c : Char} (hcontrol : IsControl c) (hc : c ∈ cs) :
    ∃ s, P s ∧ s.toList <:+: cs ∧ c ∈ s.toList := by
  induction h with
  | plain h => exact absurd hcontrol (h c hc)
  | @text s hs => exact ⟨s, hs, List.infix_rfl, hc⟩
  | append _ _ ih ih' =>
      rcases List.mem_append.mp hc with hc | hc
      · obtain ⟨s, hs, hle, hmem⟩ := ih hc
        exact ⟨s, hs, hle.trans (List.prefix_append _ _).isInfix, hmem⟩
      · obtain ⟨s, hs, hle, hmem⟩ := ih' hc
        exact ⟨s, hs, hle.trans (List.suffix_append _ _).isInfix, hmem⟩

protected theorem flatMap {α : Type} {l : List α} {f : α → List Char}
    (h : ∀ x ∈ l, Woven P (f x)) : Woven P (l.flatMap f) := by
  induction l with
  | nil => exact .plain .nil
  | cons x rest ih =>
      obtain ⟨hx, hrest⟩ := List.forall_mem_cons.mp h
      rw [List.flatMap_cons]
      exact .append hx (ih hrest)

theorem intercalate {sep : String} (hsep : Plain sep.toList) {l : List String}
    (h : ∀ s ∈ l, Woven P s.toList) : Woven P (sep.intercalate l).toList := by
  rw [String.toList_intercalate]
  induction l with
  | nil => exact .plain .nil
  | cons s rest ih =>
      obtain ⟨hs, hrest⟩ := List.forall_mem_cons.mp h
      cases rest with
      | nil =>
          rw [List.map_singleton, List.intercalate_singleton]
          exact hs
      | cons next rest =>
          rw [List.map_cons, List.map_cons, List.intercalate_cons_cons]
          exact .append (.append hs (.plain hsep)) (ih hrest)

end Woven

/-! ## Numbers -/

theorem not_isControl_digitChar : ∀ n < 16, ¬ IsControl n.digitChar := by decide

theorem plain_toDigits {base : Nat} (hpos : 0 < base) (hle : base ≤ 16) (n : Nat) :
    Plain (Nat.toDigits base n) := by
  -- Digits are put in front of those that were found before.
  have hcore : ∀ fuel n cs, Plain cs → Plain (Nat.toDigitsCore base fuel n cs) := by
    intro fuel
    induction fuel with
    | zero => exact fun _ _ h => h
    | succ fuel ih =>
        intro n cs h
        have hdigit : n % base < 16 := Nat.lt_of_lt_of_le (Nat.mod_lt n hpos) hle
        have hcons : Plain ((n % base).digitChar :: cs) :=
          .cons (not_isControl_digitChar _ hdigit) h
        rw [Nat.toDigitsCore]
        split
        · exact hcons
        · exact ih _ _ hcons
  exact hcore _ _ _ Plain.nil

theorem plain_decimal (n : Nat) : Plain (Nat.toDigits 10 n) :=
  plain_toDigits (by decide) (by decide) n

theorem plain_toString (n : Nat) : Plain (toString n).toList := by
  rw [Nat.toString_eq_ofList_toDigits]
  exact .ofList (plain_decimal n)

namespace Double

theorem plain_shortest (d : Double) : Plain d.shortest.digits := by
  rw [shortest]
  dsimp only
  split
  · next n count _ =>
      refine (plain_decimal n).subset fun c hc => ?_
      have hdropped := (List.dropWhile_sublist _).subset (List.mem_reverse.mp hc)
      exact List.mem_reverse.mp hdropped
  · decide

theorem plain_decimalChars {d : Decimal} (h : Plain d.digits) : Plain d.chars := by
  have hzeros : ∀ n, Plain (List.replicate n '0') := fun n => .replicate n (by decide)
  have hsign : ¬ IsControl (if d.point - 1 < 0 then '-' else '+') := by split <;> decide
  refine .ite (fun _ => ?_) fun _ => .ite (fun _ => ?_) fun _ => .ite (fun _ => ?_) fun _ => ?_
  · -- With an exponent, and with a point if there are two digits.
    refine .append ?_ (.cons (by decide) (.cons hsign (plain_decimal _)))
    split
    · next first second rest hdigits =>
        rw [hdigits] at h
        obtain ⟨hfirst, hrest⟩ := List.forall_mem_cons.mp h
        exact .cons hfirst (.cons (by decide) hrest)
    · exact h
  · exact .cons (by decide) (.cons (by decide) (.append (hzeros _) h))
  · exact .append (.append h (hzeros _)) (by decide)
  · exact .append (h.subset (List.take_subset _ _))
      (.cons (by decide) (h.subset (List.drop_subset _ _)))

theorem plain_chars (d : Double) : Plain d.chars :=
  .append (.ite (fun _ => by decide) fun _ => .nil)
    (.ite (fun _ => by decide) fun _ => plain_decimalChars (plain_shortest d))

end Double

/-! ## Quotes -/

namespace Text

theorem not_isControl_of_isPrintable {c : Char} (h : isPrintable c = true) :
    ¬ IsControl c := by
  intro hc
  rw [isPrintable, Bool.not_eq_true', List.any_eq_false] at h
  refine h (0x0, 0x1f) List.mem_cons_self ?_
  rw [Bool.and_eq_true, decide_eq_true_iff, decide_eq_true_iff]
  exact ⟨Nat.zero_le _, Nat.le_of_lt_succ hc⟩

/-- A character is escaped, spelled by its number, or shown. -/
theorem plain_escape {quote : Char} (hquote : ¬ IsControl quote) (c : Char) :
    Plain (escape quote c) := by
  have hspelled : Plain (Nat.toDigits 16 c.toNat) := plain_toDigits (by decide) (by decide) _
  refine .ite (fun _ => by decide) fun _ => .ite (fun _ => by decide) fun _ =>
    .ite (fun _ => by decide) fun _ => .ite (fun _ => by decide) fun _ =>
    .ite (fun _ => by decide) fun _ => .ite (fun _ => ?_) fun _ => .ite (fun h => ?_) fun _ => ?_
  · exact .cons (by decide) (.cons hquote .nil)
  · exact .cons (not_isControl_of_isPrintable h) .nil
  · exact .cons (by decide) (.cons (by decide) (.cons (by decide)
      (.append hspelled (by decide))))

theorem plain_quoted (s : String) : Plain (quoted s).toList := by
  have hquote : ¬ IsControl '"' := by decide
  exact .ofList (.cons hquote (.append (.flatMap fun c _ => plain_escape hquote c)
    (.cons hquote .nil)))

theorem plain_quotedChar (c : Char) : Plain (quotedChar c).toList := by
  have hquote : ¬ IsControl '\'' := by decide
  exact .ofList (.cons hquote (.append (plain_escape hquote c) (.cons hquote .nil)))

end Text

namespace Json

theorem plain_escape (c : Char) : Plain (escape c) := by
  refine .ite (fun _ => by decide) fun _ => .ite (fun _ => by decide) fun _ =>
    .ite (fun _ => by decide) fun _ => .ite (fun _ => by decide) fun _ =>
    .ite (fun _ => by decide) fun _ => .ite (fun _ => by decide) fun _ =>
    .ite (fun _ => by decide) fun _ => .ite (fun h => ?_) fun h => .cons h .nil
  have hhigh := not_isControl_digitChar (c.toNat / 16) (by omega)
  have hlow := not_isControl_digitChar (c.toNat % 16) (by omega)
  exact .append (by decide : Plain ['\\', 'u', '0', '0']) (.cons hhigh (.cons hlow .nil))

theorem plain_stringChars (s : String) : Plain (stringChars s) :=
  .cons (by decide) (.append (.flatMap fun c _ => plain_escape c) (by decide))

theorem plain_intChars (n : Int) : Plain (intChars n) :=
  .append (.ite (fun _ => by decide) fun _ => .nil) (plain_decimal _)

theorem plain_itemsChars {items : List Json} (h : ∀ v ∈ items, Plain v.chars) :
    Plain (itemsChars items) := by
  induction items with
  | nil => exact .nil
  | cons item rest ih =>
      obtain ⟨hitem, hrest⟩ := List.forall_mem_cons.mp h
      cases rest with
      | nil => exact hitem
      | cons next rest =>
          rw [itemsChars]
          · exact .append hitem (.cons (by decide) (ih hrest))
          · exact nofun

theorem plain_membersChars {members : List (String × Json)}
    (h : ∀ m ∈ members, Plain m.2.chars) : Plain (membersChars members) := by
  induction members with
  | nil => exact .nil
  | cons m rest ih =>
      obtain ⟨hm, hrest⟩ := List.forall_mem_cons.mp h
      have hmember : Plain (stringChars m.1 ++ ':' :: chars m.2) :=
        .append (plain_stringChars m.1) (.cons (by decide) hm)
      cases rest with
      | nil => exact hmember
      | cons next rest =>
          rw [membersChars]
          · exact .append hmember (.cons (by decide) (ih hrest))
          · exact nofun

/-- Whatever a value holds, its text is a line. -/
theorem plain_chars (v : Json) : Plain v.chars := by
  induction v using induction_children with
  | h v ih =>
      cases v with
      | null => decide
      | bool b => cases b <;> decide
      | int n => exact plain_intChars n
      | double d => exact d.plain_chars
      | str s => exact plain_stringChars s
      | arr items =>
          have hitems : Plain (itemsChars items) := plain_itemsChars ih
          rw [chars]
          exact .cons (by decide) (.append hitems (by decide))
      | obj members =>
          have hmembers := plain_membersChars fun m hm => ih m.2 (List.mem_map_of_mem hm)
          rw [chars]
          exact .cons (by decide) (.append hmembers (by decide))

end Json

/-! ## Paths -/

/-- The text of a path is woven from the names on it. -/
theorem Segment.woven_chars (s : Segment) : Woven (fun name => s = .field name) s.chars := by
  cases s with
  | index n =>
      rw [chars]
      exact .plain (.cons (by decide) (.append (plain_decimal n) (by decide)))
  | field name =>
      have hname : Woven (fun other => field name = .field other) name.toList := .text rfl
      rw [chars]
      split_ifs
      · exact .cons (by decide) (.cons (by decide) (.append hname (.plain (by decide))))
      · exact .cons (by decide) (.append hname (.plain (by decide)))
      · exact hname

theorem Segment.woven_charsAfter (s : Segment) :
    Woven (fun name => s = .field name) s.charsAfter := by
  rw [charsAfter]
  split
  · exact .cons (by decide) s.woven_chars
  · exact s.woven_chars

theorem Path.woven_render (path : Path) :
    Woven (fun name => .field name ∈ path) path.render.toList := by
  rw [render, String.toList_ofList]
  cases path with
  | nil => exact .plain .nil
  | cons first rest =>
      refine .append (first.woven_chars.mono ?_) (.flatMap fun s hs => ?_)
      · rintro name rfl
        exact List.mem_cons_self
      · refine s.woven_charsAfter.mono ?_
        rintro name rfl
        exact List.mem_cons_of_mem _ hs

end ComposeLint
