import Mathlib.Data.List.Flatten
import ComposeLint.Proofs.Positions
import ComposeLint.Proofs.Splicing

/-!
# More schemas find more

In loose mode a missing schema silences the checks that depend on it and does nothing
else, so a run with more schemas finds all that a run with fewer finds, in the same
order, and perhaps more between (`lint_loose_mono`).

A check that exists with and without a schema could break this: it might report
something else as soon as it has one. The lemmas go through these checks one by one.
The shape of a patch is looked at first in either case; a readiness check asks for a
schema only when nothing else is wrong with it; and what needs a schema outright finds
nothing without. What a renderer is given and what its result is checked against are
both missing or both the same.
-/

namespace ComposeLint

/-- Where the first lookup finds a schema the second finds the same. -/
def SchemaLookup.Le (schemas more : SchemaLookup) : Prop :=
  ∀ key schema, schemas key = some schema → more key = some schema

/-! ## Readiness -/

namespace ReadinessCheck

variable {c : ReadinessCheck} {fault : ReadinessFault}

theorem fieldFault_mono {expected : Option JsonType}
    (h : c.fieldFault expected none = some fault) (composed : Option Schema) :
    c.fieldFault expected composed = some fault := by
  rw [fieldFault] at h ⊢
  cases hfield : c.fieldPath.filter (· ≠ "") with
  | none =>
      rw [hfield] at h
      exact h
  | some field =>
      rw [hfield] at h
      cases h

/-- What is wrong with a check without a schema is wrong with it in the same way with
one. -/
theorem fault_mono (h : c.fault none = some fault) (composed : Option Schema) :
    c.fault composed = some fault := by
  rw [ReadinessCheck.fault] at h ⊢
  -- A missing value to compare with is found before the field is looked at.
  cases htype : c.type with
  | none | matchCondition =>
      rw [htype] at h
      exact h
  | nonEmpty =>
      rw [htype] at h
      exact fieldFault_mono h composed
  | matchString | matchInteger =>
      simp only [htype] at h ⊢
      split at h
      · next hmissing => rw [if_pos hmissing]; exact h
      · next hmissing => rw [if_neg hmissing]; exact fieldFault_mono h composed

end ReadinessCheck

/-! ## Templates -/

namespace Template

variable {t : Template} {index : Nat} {composite composite' composed composed' : Option Schema}
  {schemas more : SchemaLookup}

theorem checkReadiness_mono (hd : ∀ s, composed = some s → composed' = some s) :
    (t.checkReadiness index composed).Sublist (t.checkReadiness index composed') := by
  cases composed with
  | some s => rw [hd s rfl]
  | none =>
      refine filterMap_sublist fun v _ f hf => ?_
      obtain ⟨fault, hfault, rfl⟩ := Option.map_eq_some_iff.mp hf
      exact Option.map_eq_some_iff.mpr ⟨fault, ReadinessCheck.fault_mono hfault _, rfl⟩

/-- The shape of a patch is checked with schemas as it is without. -/
theorem patchFindings_mono {p : Patch} {path : Path}
    (hc : ∀ s, composite = some s → composite' = some s)
    (hd : ∀ s, composed = some s → composed' = some s) :
    (patchFindings p path composite composed).Sublist
      (patchFindings p path composite' composed') := by
  unfold patchFindings
  -- Either schema alone is not enough, so only two that are kept change nothing.
  cases p.action with
  | error e => exact List.Sublist.refl _
  | ok action =>
      cases composite with
      | none => exact List.nil_sublist _
      | some composite =>
          cases composed with
          | none => exact List.nil_sublist _
          | some composed => rw [hc composite rfl, hd composed rfl]

theorem findings_mono {patches : List Patch}
    (hc : ∀ s, composite = some s → composite' = some s)
    (hd : ∀ s, composed = some s → composed' = some s) :
    (t.findings index patches composite composed).Sublist
      (t.findings index patches composite' composed') := by
  have hdetails : (composed.elim [] (t.checkConnectionDetails index)).Sublist
      (composed'.elim [] (t.checkConnectionDetails index)) := by
    cases composed with
    | none => exact List.nil_sublist _
    | some s => rw [hd s rfl]
  refine (List.Sublist.append ?_ hdetails).append (checkReadiness_mono hd)
  exact List.Sublist.flatMap_right _ fun _ _ => patchFindings_mono hc hd

theorem schema?_mono (h : schemas.Le more) :
    ∀ s, t.schema? schemas = some s → t.schema? more = some s := by
  intro s hs
  obtain ⟨key, hkey, hs⟩ := Option.bind_eq_some_iff.mp hs
  exact Option.bind_eq_some_iff.mpr ⟨key, hkey, h key s hs⟩

end Template

/-! ## Compositions -/

namespace Composition

variable {c : Composition} {schemas more : SchemaLookup}

theorem schema?_mono (h : schemas.Le more) :
    ∀ s, c.schema? schemas = some s → c.schema? more = some s :=
  h c.spec.compositeType.key

/-- In loose mode types are read, and not looked up. -/
theorem typeFindings_loose (schemas more : SchemaLookup) :
    c.typeFindings .loose schemas = c.typeFindings .loose more := rfl

theorem templateFindings_mono (h : schemas.Le more) :
    (c.templateFindings schemas).Sublist (c.templateFindings more) :=
  List.Sublist.flatMap_right _ fun _ _ =>
    Template.findings_mono (c.schema?_mono h) (Template.schema?_mono h)

theorem renderFindings_mono {renderer : Option Renderer} (h : schemas.Le more) :
    (c.renderFindings renderer schemas).Sublist (c.renderFindings renderer more) := by
  rw [renderFindings_eq, renderFindings_eq]
  cases hrendering : c.rendering? renderer schemas with
  | none => exact List.nil_sublist _
  | some render =>
      obtain ⟨hfunctions, renderer', hrenderer, composite, hcomposite, hrender⟩ :=
        rendering?_eq_some_iff.mp hrendering
      have hsame : c.rendering? renderer more = some render :=
        rendering?_eq_some_iff.mpr ⟨hfunctions, renderer', hrenderer, composite,
          c.schema?_mono h composite hcomposite, hrender⟩
      rw [hsame]
      refine List.Sublist.flatMap_right _ fun v _ => ?_
      dsimp only
      cases hcomposed : v.1.schema? schemas with
      | none => exact List.nil_sublist _
      | some composed => rw [Template.schema?_mono h composed hcomposed]

theorem schemaFindings_loose_mono {renderer : Option Renderer} (h : schemas.Le more) :
    (c.schemaFindings .loose renderer schemas).Sublist
      (c.schemaFindings .loose renderer more) := by
  rw [schemaFindings, schemaFindings, typeFindings_loose schemas more]
  exact ((List.Sublist.refl _).append (templateFindings_mono h)).append (renderFindings_mono h)

end Composition

namespace Linter

/-- In loose mode what is found stays found, in its order, however many schemas there are
besides. -/
theorem lint_loose_mono {l : Linter} {c : Composition} (hmode : l.modeFor c = .ok .loose)
    {schemas more : SchemaLookup} (h : schemas.Le more) :
    (l.lint c schemas).Sublist (l.lint c more) := by
  by_cases hstruct : l.structureFindings c = []
  · rw [lint_of_structured hmode hstruct, lint_of_structured hmode hstruct]
    exact Composition.schemaFindings_loose_mono h
  · rw [lint_of_not_structured hmode hstruct, lint_of_not_structured hmode hstruct]

/-- With the schema of the composed resource alone, only the patch that lacks its source
is found; with that of the composite also the one whose source does not exist. -/
theorem lint_loose_mono_labelled :
    let l := standard true (some .loose)
    let c := Composition.labelled [.blank, .copying "spec.size"]
    let schemas : SchemaLookup := fun key =>
      if key.kind = "Bucket" then some (.object {}) else none
    let more : SchemaLookup := fun _ => some (.object {})
    l.modeFor c = .ok .loose ∧ schemas.Le more ∧
      (l.lint c schemas).length = 1 ∧ (l.lint c more).length = 2 ∧
      (l.lint c schemas).Sublist (l.lint c more) := by
  have hle : SchemaLookup.Le
      (fun key => if key.kind = "Bucket" then some (.object {}) else none)
      (fun _ => some (.object {})) := by
    intro key schema h
    rw [Option.ite_none_right_eq_some] at h
    exact h.2
  exact ⟨rfl, hle, by decide, by decide, lint_loose_mono rfl hle⟩

end Linter

end ComposeLint
