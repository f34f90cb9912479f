import ComposeLint.Proofs.PatchVerdict
import ComposeLint.Proofs.Positions
import ComposeLint.Proofs.RuleVerdict
import ComposeLint.Composition.Linter

/-!
# When a template is accepted

The checks of a template against the schemas of the composite and the composed
resource, turned into the conditions under which they find nothing. Positions are
gone from these: where a patch or a detail stands in its list decides what is
reported of it, and not whether anything is.
-/

namespace ComposeLint

/-! ## Patches -/

namespace Patch

variable {p : Patch} {composite composed : Schema}

theorem check_eq_nil_iff_actionFaults {path : Path} :
    p.check path composite composed = [] ↔
      (p.kind.isCheckable = true →
        ∃ action, p.action = .ok action ∧ p.actionFaults composite composed action = []) := by
  rw [check]
  cases p.kind.isCheckable with
  | false => simp
  | true =>
      cases p.action with
      | error e => simp
      | ok action => simp

/-- A patch that is accepted at one place is accepted everywhere. -/
theorem check_eq_nil_of_path {path : Path} (h : p.check path composite composed = [])
    (other : Path) : p.check other composite composed = [] := by
  rw [check_eq_nil_iff_actionFaults] at h ⊢
  exact h

end Patch

/-- Nothing is wrong with a patch between two resources with these schemas. -/
structure Patch.Accepted (p : Patch) (composite composed : Schema) : Prop where
  wellShaped : p.WellShaped
  checked : p.kind.isCheckable = true → ∀ path, p.check path composite composed = []

theorem Template.patchFindings_eq_nil_iff {p : Patch} {path : Path}
    {composite composed : Schema} :
    patchFindings p path (some composite) (some composed) = [] ↔
      p.Accepted composite composed := by
  constructor
  · intro h
    unfold patchFindings at h
    split at h
    · cases h
    · next action haction =>
        exact ⟨⟨action, haction⟩, fun _ => Patch.check_eq_nil_of_path h⟩
  · rintro ⟨⟨action, haction⟩, hcheck⟩
    simp only [patchFindings, haction]
    cases hkind : p.kind.isCheckable with
    | false => simp [Patch.check, hkind]
    | true => exact hcheck hkind path

/-! ## Connection details -/

/-- The field that a connection detail reads, if it reads one, is a field of the
composed resource. -/
def ConnectionDetail.Resolves (d : ConnectionDetail) (composed : Schema) : Prop :=
  ∀ field, d.fromFieldPath = some field →
    ∃ found, composed.resolveText field = .ok found

theorem ConnectionDetail.check_eq_none_iff {d : ConnectionDetail} {path : Path}
    {composed : Schema} : d.check path composed = none ↔ d.Resolves composed := by
  rw [check, Resolves]
  cases d.fromFieldPath with
  | none => simp
  | some field =>
      cases hfield : composed.resolveText field with
      | error e => simp [hfield]
      | ok found => simp [hfield]

/-! ## Readiness checks -/

namespace ReadinessCheck

/-- The check gives a field of the composed resource. Its type is the expected one, if
one is expected and the schema tells the type. -/
def Reads (c : ReadinessCheck) (expected : Option JsonType) (composed : Schema) : Prop :=
  ∃ field found, c.fieldPath = some field ∧ field ≠ "" ∧
    composed.resolveText field = .ok found ∧
    ∀ want type, expected = some want → found.type = some type → type = want

/-- The check carries what its type needs, and what it reads can be compared. -/
def Fits (c : ReadinessCheck) (composed : Schema) : Prop :=
  match c.type with
  | .nonEmpty => c.Reads none composed
  | .matchString =>
    (∃ text, c.matchString = some text ∧ text ≠ "") ∧ c.Reads (some .string) composed
  | .matchInteger => c.matchInteger ≠ none ∧ c.Reads (some .integer) composed
  | .matchCondition =>
    ∃ condition, c.matchCondition = some condition ∧
      condition.type ≠ "" ∧ condition.status ≠ ""
  | .none => True

variable {c : ReadinessCheck} {composed : Schema}

theorem filter_ne_empty_eq_some_iff {text : Option String} {s : String} :
    text.filter (· ≠ "") = some s ↔ text = some s ∧ s ≠ "" := by
  simp [Option.filter_eq_some_iff]

theorem isNone_filter_ne_empty_iff {text : Option String} :
    (text.filter (· ≠ "")).isNone = false ↔ ∃ s, text = some s ∧ s ≠ "" := by
  simp only [← filter_ne_empty_eq_some_iff]
  cases text.filter (· ≠ "") <;> simp

/-- A type is compared only where both are known. -/
theorem mismatch_eq_none_iff {expected actual : Option JsonType} {field : String} :
    (match expected, actual with
      | some want, some type =>
        if want = type then none else some (ReadinessFault.mismatch field want)
      | _, _ => none) = none ↔
      ∀ want type, expected = some want → actual = some type → type = want := by
  cases expected with
  | none => simp
  | some want =>
      cases actual with
      | none => simp
      | some type => simp [eq_comm]

theorem fieldFault_eq_none_iff {expected : Option JsonType} :
    c.fieldFault expected (some composed) = none ↔ c.Reads expected composed := by
  have hreads : c.Reads expected composed ↔
      ∃ field, c.fieldPath.filter (· ≠ "") = some field ∧
        ∃ found, composed.resolveText field = .ok found ∧
          ∀ want type, expected = some want → found.type = some type → type = want := by
    simp only [Reads, filter_ne_empty_eq_some_iff, and_assoc, exists_and_left]
  rw [hreads, fieldFault]
  cases c.fieldPath.filter (· ≠ "") with
  | none => simp
  | some field =>
      simp only [Option.some.injEq, exists_eq_left']
      cases composed.resolveText field with
      | error e => simp
      | ok found =>
          simp only [Except.ok.injEq, exists_eq_left']
          exact mismatch_eq_none_iff

theorem conditionFault_eq_none_iff {condition : Option ConditionMatch} :
    conditionFault condition = none ↔
      ∃ m, condition = some m ∧ m.type ≠ "" ∧ m.status ≠ "" := by
  cases condition with
  | none => simp [conditionFault]
  | some m =>
      by_cases htype : m.type = "" <;> by_cases hstatus : m.status = "" <;>
        simp [conditionFault, htype, hstatus]

theorem fault_eq_none_iff : c.fault (some composed) = none ↔ c.Fits composed := by
  rw [fault, Fits]
  cases c.type with
  | nonEmpty => exact fieldFault_eq_none_iff
  | matchString =>
      dsimp only
      rw [← isNone_filter_ne_empty_iff, ← fieldFault_eq_none_iff]
      cases (c.matchString.filter (· ≠ "")).isNone <;> simp
  | matchInteger =>
      dsimp only
      rw [← fieldFault_eq_none_iff]
      cases c.matchInteger <;> simp
  | matchCondition => exact conditionFault_eq_none_iff
  | none => exact iff_of_true rfl trivial

end ReadinessCheck

/-! ## Templates -/

namespace Template

/-- Nothing is wrong with what a template says, `patches` being its patches after
splicing. -/
structure Accepted (t : Template) (patches : List Patch) (composite composed : Schema) :
    Prop where
  patches : ∀ p ∈ patches, p.Accepted composite composed
  connectionDetails : ∀ d ∈ t.connectionDetails, d.Resolves composed
  readinessChecks : ∀ check ∈ t.readinessChecks, check.Fits composed

variable {t : Template} {index : Nat} {composite composed : Schema}

theorem findings_eq_nil_iff {patches : List Patch} :
    t.findings index patches (some composite) (some composed) = [] ↔
      t.Accepted patches composite composed := by
  have hdetails : t.checkConnectionDetails index composed = [] ↔
      ∀ d ∈ t.connectionDetails, d.Resolves composed :=
    filterMap_zipIdx_eq_nil_iff fun _ _ => ConnectionDetail.check_eq_none_iff
  have hreadiness : t.checkReadiness index (some composed) = [] ↔
      ∀ check ∈ t.readinessChecks, check.Fits composed :=
    filterMap_zipIdx_eq_nil_iff fun _ _ =>
      Option.map_eq_none_iff.trans ReadinessCheck.fault_eq_none_iff
  rw [findings, List.append_eq_nil_iff, List.append_eq_nil_iff, Option.elim_some,
    hdetails, hreadiness,
    and_congr_left' (flatMap_zipIdx_eq_nil_iff fun _ _ => patchFindings_eq_nil_iff)]
  constructor
  · rintro ⟨⟨hp, hd⟩, hr⟩
    exact ⟨hp, hd, hr⟩
  · rintro ⟨hp, hd, hr⟩
    exact ⟨⟨hp, hd⟩, hr⟩

end Template

end ComposeLint
