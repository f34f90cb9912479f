import ComposeLint.Composition.Linter
import ComposeLint.Proofs.PatchVerdict
import ComposeLint.Proofs.PlainText

/-!
# What messages are made of

Messages are made of fixed text, numbers, names of types and texts of the document. Most
of these texts stand in quotes, and a message that quotes all of them is plain. A few stand
as they are: the name of a field that is not found (though not the name of one that is
looked for in something else than an object), and the paths that a patch reads and writes.

So the detail of a finding is woven from such texts (`Finding.Weaves`), and as the path
and the value of the finding are plain, a control character in its line comes from one of
them (`Finding.Weaves.mem_render_iff_exists`).
-/

namespace ComposeLint

open Text

/-! ## Messages -/

theorem JsonType.plain_name (type : JsonType) : Plain type.name.toList := by
  cases type <;> exact .literal

theorem Schema.plain_typeName (s : Schema) : Plain s.typeName.toList := by
  rw [typeName]
  cases s.type? with
  | none => exact .literal
  | some type => exact type.plain_name

theorem PathError.plain_message (e : PathError) : Plain e.message.toList := by
  cases e with
  | emptyField position | unclosedBracket position | emptyBracket position =>
      exact .concat (.concat .literal (plain_toString position)) .literal
  | unexpectedClosingBracket position => exact .concat .literal (plain_toString position)
  | unexpectedCharacter c position =>
      exact .concat (.concat .literal (plain_quotedChar c))
        (.concat (.concat .literal (plain_toString position)) .literal)
  | indexTooLarge digits => exact .concat (.concat .literal (plain_quoted digits)) .literal

theorem TransformError.plain_message (e : TransformError) : Plain e.message.toList := by
  cases e with
  | missingConfig type | missingMathField type | missingStringField type
  | missingPatternField type =>
      cases type <;> exact .concat (.concat .literal .literal) .literal
  | emptyMap => exact .literal
  | emptyMatch => exact .literal
  | invalidRegex pattern => exact .concat .literal (plain_quoted pattern)

theorem Accepted.plain_description (a : Accepted) : Plain a.description.toList := by
  cases a with
  | anything => exact .literal
  | oneOf types =>
      have hnames : Woven (fun _ => False) (description (.oneOf types)).toList := by
        refine .intercalate .literal fun s hs => ?_
        obtain ⟨type, -, rfl⟩ := List.mem_map.mp hs
        exact .plain type.plain_name
      exact hnames.plain_of nofun

theorem ChainError.plain_message (e : ChainError) : Plain e.message.toList := by
  have hindex : ∀ {start finish : String} (index : Nat), Plain start.toList →
      Plain finish.toList → Plain (start ++ toString index ++ finish).toList :=
    fun index hstart hfinish => .concat (.concat hstart (plain_toString index)) hfinish
  cases e with
  | invalidTransform index cause =>
      exact .concat (hindex index .literal .literal) cause.plain_message
  | inputMismatch index expected actual =>
      exact .concat (.concat (.concat (hindex index .literal .literal)
        expected.plain_description) .literal) actual.plain_name
  | unsupportedConversion index source target format =>
      have htarget : Plain target.name.toList := by cases target <;> exact .literal
      have hformat : Plain format.name.toList := by cases format <;> exact .literal
      exact .concat (.concat (.concat (.concat (.concat (hindex index .literal .literal)
        source.plain_name) .literal) htarget) .literal) hformat
  | transformRequired source destination | outputMismatch source destination =>
      exact .concat (.concat (.concat (.concat .literal source.plain_name) .literal)
        destination.plain_name) .literal

/-! ## Fields that do not resolve -/

theorem Schema.woven_of_step {s : Schema} {segment : Segment} {e : ResolveError}
    (h : s.step segment = .error e) :
    Woven (fun name => segment = .field name) e.message.toList := by
  have hnotAnObject : ∀ name, Plain (ResolveError.notAnObject name s.typeName).message.toList :=
    fun name => .concat (.concat (.concat .literal (plain_quoted name)) .literal)
      s.plain_typeName
  have hnotAnArray : ∀ n, Plain (ResolveError.notAnArray n s.typeName).message.toList :=
    fun _ => .concat (.concat .literal s.plain_typeName) .literal
  cases segment with
  | field name =>
      have hnotFound : Woven (fun other => Segment.field name = .field other)
          (ResolveError.fieldNotFound name).message.toList := .concat .literal (.text rfl)
      cases s with
      | object shape =>
          rw [step] at h
          split at h <;> cases h
          exact hnotFound
      | unknown =>
          cases h
          exact hnotFound
      | array _ | scalar _ =>
          cases h
          exact .plain (hnotAnObject name)
  | index n =>
      cases s with
      | array items =>
          cases items with
          | any => cases h
          | each _ => cases h
          | positional schemas =>
              rw [step] at h
              split at h <;> cases h
              exact .plain (.concat (.concat (.concat (.concat .literal (plain_toString n))
                .literal) (plain_toString schemas.length)) .literal)
      | object _ | scalar _ | unknown =>
          cases h
          exact .plain (hnotAnArray n)

theorem Schema.woven_of_walk {path : Path} {s : Schema} {required : Bool} {e : ResolveError}
    (h : s.walk required path = .error e) :
    Woven (fun name => .field name ∈ path) e.message.toList := by
  induction path generalizing s required with
  | nil => cases h
  | cons segment rest ih =>
      rw [walk] at h
      split at h
      · next e' he =>
          cases h
          refine (woven_of_step he).mono ?_
          rintro name rfl
          exact List.mem_cons_self
      · cases h
      · exact (ih h).mono fun name hname => List.mem_cons_of_mem _ hname

/-- A name on the path that a text spells. -/
def Path.Mentions (text name : String) : Prop :=
  ∃ path, Path.parse text = .ok path ∧ .field name ∈ path

/-- Of a path that does not resolve a name may be told as it is. -/
theorem Schema.woven_of_resolveText {s : Schema} {text : String} {e : ResolveError}
    (h : s.resolveText text = .error e) : Woven (Path.Mentions text) e.message.toList := by
  rw [resolveText] at h
  cases hparse : Path.parse text with
  | error cause =>
      rw [hparse] at h
      cases h
      exact .concat .literal (.plain cause.plain_message)
  | ok path =>
      rw [hparse] at h
      suffices hpath : Woven (fun name => .field name ∈ path) e.message.toList from
        hpath.mono fun name hname => ⟨path, hparse, hname⟩
      dsimp only at h
      unfold resolve at h
      split at h
      · cases h
      · exact (woven_of_walk h).mono fun name hname => List.mem_cons_of_mem _ hname
      · exact woven_of_walk h

/-! ## Findings -/

namespace Path

/-- Every name on the path is plain. -/
def NamesPlain (path : Path) : Prop := ∀ name, .field name ∈ path → Plain name.toList

namespace NamesPlain

variable {path rest : Path} {name : String}

theorem nil : NamesPlain [] := nofun

theorem field (hname : Plain name.toList) (h : NamesPlain rest) :
    NamesPlain (.field name :: rest) := by
  rintro _ (_ | ⟨_, hrest⟩)
  · exact hname
  · exact h _ hrest

theorem index {n : Nat} (h : NamesPlain rest) : NamesPlain (.index n :: rest) := by
  rintro _ (_ | ⟨_, hrest⟩)
  exact h _ hrest

theorem append (h : path.NamesPlain) (h' : rest.NamesPlain) : NamesPlain (path ++ rest) := by
  intro name hname
  rcases List.mem_append.mp hname with hname | hname
  · exact h name hname
  · exact h' name hname

theorem child (h : path.NamesPlain) (hname : Plain name.toList) : (path.child name).NamesPlain :=
  h.append (field hname nil)

theorem item {n : Nat} (h : path.NamesPlain) : (path.item n).NamesPlain := h.append (index nil)

theorem plain_render (h : path.NamesPlain) : Plain path.render.toList :=
  path.woven_render.plain_of h

end NamesPlain

end Path

namespace Finding

/-- A finding that has a plain path, and a detail that is woven from such texts. -/
structure Weaves (f : Finding) (P : String → Prop) : Prop where
  path : f.path.NamesPlain
  detail : Woven P f.detail.toList

/-- What is not plain about the line of a finding is in its detail. -/
theorem Weaves.mem_render_iff {f : Finding} {P : String → Prop} (h : f.Weaves P) {c : Char}
    (hcontrol : IsControl c) : c ∈ f.render.toList ↔ c ∈ f.detail.toList := by
  have hcolon : Plain ": ".toList := .literal
  have hkind : Plain f.kind.message.toList := by cases f.kind <;> exact .literal
  have hhead : ∀ {value : String}, Plain value.toList →
      Plain (f.path.render ++ ": " ++ f.kind.message ++ value).toList :=
    fun hvalue => .concat (.concat (.concat h.path.plain_render hcolon) hkind) hvalue
  -- Everything before the detail is plain, the value too as it is quoted.
  rw [render, String.toList_append, List.mem_append]
  refine (or_iff_right fun hc => hhead ?_ c hc hcontrol).trans ?_
  · split
    · next value _ => exact .concat hcolon (.ofList value.plain_chars)
    · exact .literal
  · split
    · next hempty => rw [hempty]
    · rw [String.toList_append, List.mem_append, or_iff_right fun hc => hcolon c hc hcontrol]

/-- It comes from one of the texts that the detail is woven from. -/
theorem Weaves.mem_render_iff_exists {f : Finding} {P : String → Prop} (h : f.Weaves P)
    {c : Char} (hcontrol : IsControl c) :
    c ∈ f.render.toList ↔
      ∃ text, P text ∧ text.toList <:+: f.detail.toList ∧ c ∈ text.toList := by
  rw [h.mem_render_iff hcontrol]
  constructor
  · exact fun hc => h.detail.exists_of_mem hcontrol hc
  · rintro ⟨text, -, hle, hc⟩
    exact hle.subset hc

end Finding

/-! ## Patches -/

variable {P : String → Prop} {path : Path} {f : Finding}

/-- The property of a text, and of the names on the path that it spells. -/
def Covers (P : String → Prop) (text : String) : Prop :=
  P text ∧ ∀ name, Path.Mentions text name → P name

theorem PatchError.weaves (e : PatchError) (hpath : path.NamesPlain) :
    (e.finding path).Weaves P where
  path := by
    refine hpath.append ?_
    cases e with
    | missingVariables => exact .field .literal (.field .literal .nil)
    | _ => exact .field .literal .nil
  detail := by
    have hname : ∀ type : PatchType, Plain type.name.toList := by
      intro type
      cases type <;> exact .literal
    cases e with
    | missingSource type | missingDestination type | missingCombine type =>
        exact .concat .literal (.plain (hname type))
    | missingVariables | missingPatchSetName => exact .literal

theorem ChainError.weaves (e : ChainError) (transforms : List Transform)
    (hpath : path.NamesPlain) : (e.finding path transforms).Weaves P := by
  have hchild : (path.child "transforms").NamesPlain := hpath.child .literal
  have hdetail : Woven P e.message.toList := .plain e.plain_message
  cases e with
  | invalidTransform _ _ | inputMismatch _ _ _ | unsupportedConversion _ _ _ _ =>
      exact ⟨hchild.item, hdetail⟩
  | transformRequired _ _ | outputMismatch _ _ => exact ⟨hchild, hdetail⟩

/-- The fault of a patch shows the texts of the paths that the patch reads and writes, and
names on them. -/
theorem Patch.Incurs.weaves {p : Patch} {action : PatchAction} {fault : PatchFault}
    (h : p.Incurs action fault)
    (hreads : ∀ text ∈ action.sources, Covers P text)
    (hwrites : ∀ text, action.destination? = some text → Covers P text)
    (hpath : path.NamesPlain) : (fault.finding path).Weaves P := by
  have hchild : ∀ {name : String}, Plain name.toList → (path.child name).NamesPlain :=
    fun hname => hpath.child hname
  cases h with
  | unresolvedSource reads h =>
      exact ⟨hchild .literal, (Schema.woven_of_resolveText h).mono (hreads _ reads).2⟩
  | unresolvedDestination writes h =>
      exact ⟨hchild .literal, (Schema.woven_of_resolveText h).mono (hwrites _ writes).2⟩
  | optionalSource reads writes =>
      exact ⟨hchild .literal,
        .concat (.concat .literal (.text (hwrites _ writes).1)) .literal⟩
  | @unresolvedVariable _ _ index _ _ reads h =>
      refine ⟨hchild .literal, .concat (.concat (.concat (.plain ?_) (.text (hreads _ reads).1))
        .literal) ((Schema.woven_of_resolveText h).mono (hreads _ reads).2)⟩
      exact .concat (.concat .literal (plain_toString index)) .literal
  | optionalVariables reads writes =>
      refine ⟨hchild .literal, .concat (.concat (.concat (.concat .literal
        (.intercalate .literal ?_)) .literal) (.text (hwrites _ writes).1)) .literal⟩
      intro text htext
      rw [reads] at htext
      exact .text (hreads _ htext).1
  | missingStringFormat => exact ⟨(hchild .literal).child .literal, .literal⟩
  | unknownStrategy => exact ⟨(hchild .literal).child .literal, .literal⟩
  | @chain _ _ cause h => exact cause.weaves p.transforms hpath

/-- The patch reads or writes at the path that the text spells. -/
def Patch.Follows (p : Patch) (text : String) : Prop :=
  ∃ action, p.action = .ok action ∧ (text ∈ action.sources ∨ action.destination? = some text)

theorem Template.weaves_of_mem_patchFindings {p : Patch} {composite composed : Option Schema}
    (hp : ∀ text, p.Follows text → Covers P text) (hpath : path.NamesPlain)
    (h : f ∈ patchFindings p path composite composed) : f.Weaves P := by
  unfold patchFindings at h
  split at h
  · next e _ =>
      obtain rfl := List.mem_singleton.mp h
      exact e.weaves hpath
  · next action haction =>
      split at h
      · rw [Patch.check, haction] at h
        split at h
        · cases h
        · obtain ⟨fault, hfault, rfl⟩ := List.mem_map.mp h
          exact (Patch.incurs_of_mem_actionFaults hfault).weaves
            (fun text htext => hp text ⟨action, haction, .inl htext⟩)
            (fun text htext => hp text ⟨action, haction, .inr htext⟩) hpath
      · cases h

end ComposeLint
