import ComposeLint.Proofs.Splicing
import ComposeLint.Proofs.TemplateVerdict

/-!
# What strict checking accepts

A composition is accepted in strict mode exactly if it is well-structured, its
references resolve, all of its types have schemas, and nothing is wrong with any
template between the schemas of the composite and the composed resource.

In strict mode a missing schema is a finding itself. Past it every template is
checked against two schemas, and no check is left out for want of one. What a patch
without a set name does to the splicing (it stays where it is) is made up for by the
check of its shape.
-/

namespace ComposeLint

/-- The patch refers to a set that exists, if it is of the type that refers to sets. -/
def Patch.RefersToDeclared (p : Patch) (sets : List PatchSet) : Prop :=
  p.kind = .patchSet →
    ∃ name, p.patchSetName = some name ∧ name ≠ "" ∧ ∃ set ∈ sets, set.name = name

/-- What strict checking asks of a composition. -/
structure Composition.Accepted (c : Composition) (schemas : SchemaLookup) : Prop where
  structured : c.Structured
  references : ∀ t ∈ c.spec.resources, ∀ p ∈ t.patches,
    p.RefersToDeclared c.spec.patchSets
  checked : ∃ composite, schemas c.spec.compositeType.key = some composite ∧
    ∀ t ∈ c.spec.resources, ∃ key composed,
      t.base.typeKey = .ok key ∧ schemas key = some composed ∧
        t.Accepted (t.effectivePatches c.spec.patchSets) composite composed

namespace Template

variable {t : Template} {index : Nat} {schemas : SchemaLookup}

theorem typeFindings_strict_eq_nil_iff :
    t.typeFindings index .strict schemas = [] ↔
      ∃ key composed, t.base.typeKey = .ok key ∧ schemas key = some composed := by
  rw [typeFindings]
  cases t.base.typeKey with
  | error e => simp
  | ok key => cases hschema : schemas key <;> simp [hschema]

theorem schema?_of_typeKey {key : TypeKey} (h : t.base.typeKey = .ok key) :
    t.schema? schemas = schemas key := by
  rw [schema?, h]
  rfl

end Template

namespace Composition

variable {c : Composition} {schemas : SchemaLookup}

theorem compositeFindings_strict_eq_nil_iff :
    c.compositeFindings .strict schemas = [] ↔
      ∃ composite, schemas c.spec.compositeType.key = some composite := by
  unfold compositeFindings schema?
  cases schemas c.spec.compositeType.key <;> simp

theorem typeFindings_strict_eq_nil_iff :
    c.typeFindings .strict schemas = [] ↔
      (∃ composite, schemas c.spec.compositeType.key = some composite) ∧
        ∀ t ∈ c.spec.resources, ∃ key composed,
          t.base.typeKey = .ok key ∧ schemas key = some composed := by
  rw [typeFindings, List.append_eq_nil_iff, compositeFindings_strict_eq_nil_iff]
  exact and_congr_right' <|
    flatMap_zipIdx_eq_nil_iff fun _ _ => Template.typeFindings_strict_eq_nil_iff

/-- If all types have schemas, templates are accepted one by one. -/
theorem templateFindings_eq_nil_iff {composite : Schema}
    (hcomposite : schemas c.spec.compositeType.key = some composite)
    (htypes : ∀ t ∈ c.spec.resources, ∃ key composed,
      t.base.typeKey = .ok key ∧ schemas key = some composed) :
    c.templateFindings schemas = [] ↔
      ∀ t ∈ c.spec.resources, ∃ key composed,
        t.base.typeKey = .ok key ∧ schemas key = some composed ∧
          t.Accepted (t.effectivePatches c.spec.patchSets) composite composed := by
  have hc : c.schema? schemas = some composite := hcomposite
  rw [templateFindings, List.flatMap_eq_nil_iff, forall_mem_zipIdx_iff, hc]
  constructor
  · intro h t ht
    obtain ⟨key, composed, hkey, hschema⟩ := htypes t ht
    obtain ⟨i, hi⟩ := List.mem_iff_getElem?.mp ht
    have hfindings := h i t hi
    dsimp only at hfindings
    rw [Template.schema?_of_typeKey hkey, hschema, Template.findings_eq_nil_iff]
      at hfindings
    exact ⟨key, composed, hkey, hschema, hfindings⟩
  · intro h i t hi
    obtain ⟨key, composed, hkey, hschema, haccepted⟩ := h t (List.mem_of_getElem? hi)
    dsimp only
    rw [Template.schema?_of_typeKey hkey, hschema, Template.findings_eq_nil_iff]
    exact haccepted

theorem schemaFindings_strict_eq_nil_iff :
    c.schemaFindings .strict none schemas = [] ↔
      ∃ composite, schemas c.spec.compositeType.key = some composite ∧
        ∀ t ∈ c.spec.resources, ∃ key composed,
          t.base.typeKey = .ok key ∧ schemas key = some composed ∧
            t.Accepted (t.effectivePatches c.spec.patchSets) composite composed := by
  have hrender : c.renderFindings none schemas = [] := rfl
  rw [schemaFindings, hrender, List.append_nil, List.append_eq_nil_iff,
    typeFindings_strict_eq_nil_iff]
  constructor
  · rintro ⟨⟨⟨composite, hcomposite⟩, htypes⟩, htemplates⟩
    exact ⟨composite, hcomposite,
      (templateFindings_eq_nil_iff hcomposite htypes).mp htemplates⟩
  · rintro ⟨composite, hcomposite, haccepted⟩
    have htypes : ∀ t ∈ c.spec.resources, ∃ key composed,
        t.base.typeKey = .ok key ∧ schemas key = some composed := by
      intro t ht
      obtain ⟨key, composed, hkey, hschema, -⟩ := haccepted t ht
      exact ⟨key, composed, hkey, hschema⟩
    exact ⟨⟨⟨composite, hcomposite⟩, htypes⟩,
      (templateFindings_eq_nil_iff hcomposite htypes).mpr haccepted⟩

end Composition

/-! ## References -/

namespace Patch

variable {p : Patch} {sets : List PatchSet}

/-- A patch of type `PatchSet` either gives a name or is malformed. -/
theorem exists_action_splice_of_wellShaped (hkind : p.kind = .patchSet)
    (h : p.WellShaped) : ∃ name, p.action = .ok (.splice name) := by
  obtain ⟨act, haction⟩ := h
  have hshape := PatchType.shape_eq_splice_iff.mpr hkind
  rw [action, hshape] at haction ⊢
  dsimp only at haction ⊢
  cases hname : nonEmpty p.patchSetName with
  | none =>
      rw [hname] at haction
      cases haction
  | some name => exact ⟨name, rfl⟩

theorem refersToDeclared_of_wellShaped (h : p.WellShaped)
    (hdeclared : ∀ name, p.action = .ok (.splice name) → ∃ set ∈ sets, set.name = name) :
    p.RefersToDeclared sets := by
  intro hkind
  obtain ⟨name, haction⟩ := exists_action_splice_of_wellShaped hkind h
  obtain ⟨-, hname, hne⟩ := action_eq_splice_iff.mp haction
  exact ⟨name, hname, hne, hdeclared name haction⟩

/-- A patch that is not spliced away is among those that are checked. -/
theorem refersToDeclared_of_mem {t : Template} (hp : p ∈ t.patches)
    (hshape : ∀ q ∈ t.effectivePatches sets, q.WellShaped)
    (hdeclared : ∀ name, p.action = .ok (.splice name) → ∃ set ∈ sets, set.name = name) :
    p.RefersToDeclared sets := by
  cases href : p.reference? with
  | none =>
      have hself : p ∈ t.effectivePatches sets := by
        refine List.mem_flatMap.mpr ⟨p, hp, ?_⟩
        rw [splice_of_reference?_none href]
        exact List.mem_singleton_self p
      exact refersToDeclared_of_wellShaped (hshape p hself) hdeclared
  | some name =>
      exact refersToDeclared_of_wellShaped ⟨_, reference?_eq_some_iff.mp href⟩ hdeclared

end Patch

theorem Composition.referencesDeclared_of_refersToDeclared {c : Composition}
    (h : ∀ t ∈ c.spec.resources, ∀ p ∈ t.patches, p.RefersToDeclared c.spec.patchSets) :
    c.ReferencesDeclared := by
  intro t ht p hp name haction
  obtain ⟨hkind, hname, -⟩ := Patch.action_eq_splice_iff.mp haction
  obtain ⟨name', hname', -, hset⟩ := h t ht p hp hkind
  rw [hname, Option.some.injEq] at hname'
  exact hname' ▸ hset

namespace Linter

variable {c : Composition} {schemas : SchemaLookup}

theorem lint_eq_nil_iff {renders : Bool} {mode : Mode} :
    (standard renders (some mode)).lint c schemas = [] ↔
      (c.Structured ∧ c.ReferencesDeclared) ∧
        c.schemaFindings mode (standard renders (some mode)).renderer schemas = [] := by
  have hmode := modeFor_of_mode (l := standard renders (some mode)) (c := c) rfl
  have hpast : (standard renders (some mode)).structureFindings c = [] ↔
      c.Structured ∧ c.ReferencesDeclared := structureFindings_standard_eq_nil_iff
  rw [← hpast]
  by_cases h : (standard renders (some mode)).structureFindings c = []
  · rw [lint_of_structured hmode h]
    exact (and_iff_right h).symm
  · rw [lint_of_not_structured hmode h]
    exact iff_of_false h fun hand => h hand.1

/-- Strict checking finds nothing exactly in the compositions it is meant to accept. -/
theorem lint_strict_eq_nil_iff (c : Composition) (schemas : SchemaLookup) :
    (standard false (some .strict)).lint c schemas = [] ↔ c.Accepted schemas := by
  rw [lint_eq_nil_iff]
  have hrenderer : (standard false (some .strict)).renderer = none := rfl
  rw [hrenderer, Composition.schemaFindings_strict_eq_nil_iff]
  constructor
  · rintro ⟨⟨hstructured, hdeclared⟩, composite, hcomposite, haccepted⟩
    -- Names are not asked for by the references: a patch without one is no reference.
    -- It stays in the spliced list, where its shape is found to be wrong.
    refine ⟨hstructured, fun t ht p hp => ?_, composite, hcomposite, haccepted⟩
    obtain ⟨key, composed, -, -, htemplate⟩ := haccepted t ht
    exact Patch.refersToDeclared_of_mem hp (fun q hq => (htemplate.patches q hq).wellShaped)
      (hdeclared t ht p hp)
  · rintro ⟨hstructured, hrefers, hchecked⟩
    exact ⟨⟨hstructured, Composition.referencesDeclared_of_refersToDeclared hrefers⟩,
      hchecked⟩

end Linter

end ComposeLint
