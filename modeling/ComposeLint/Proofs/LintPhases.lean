import ComposeLint.Composition.Linter

/-!
# The phases of a run

A run stops at the first of three things: a mode that does not exist, a rule that
is broken, a reference to a patch set that does not exist. What gets past all three
is checked against schemas. The lemmas here say which phase a list of findings
comes from, so that what follows can take the phases one at a time.
-/

namespace ComposeLint

namespace Linter

variable {l : Linter} {c : Composition} {mode : Mode}

theorem modeFor_of_mode (h : l.mode = some mode) : l.modeFor c = .ok mode := by
  rw [modeFor, h]
  rfl

theorem structureFindings_eq_nil_iff :
    l.structureFindings c = [] ↔
      Rule.apply l.rules c = [] ∧ c.unknownSetFindings = [] := by
  rw [structureFindings]
  split
  · next h => simp only [h, true_and]
  · next hne => exact ⟨fun h => absurd h hne, fun h => absurd h.1 hne⟩

theorem mem_structureFindings {f : Finding} (h : f ∈ l.structureFindings c) :
    f ∈ Rule.apply l.rules c ∨ f ∈ c.unknownSetFindings := by
  rw [structureFindings] at h
  split at h
  · exact .inr h
  · exact .inl h

/-- A run that is not stopped is a check against schemas. -/
theorem lint_of_structured (hmode : l.modeFor c = .ok mode)
    (h : l.structureFindings c = []) (schemas : SchemaLookup) :
    l.lint c schemas = c.schemaFindings mode l.renderer schemas := by
  simp only [lint, hmode, h]

/-- A run that is stopped over the structure never looks at schemas. -/
theorem lint_of_not_structured (hmode : l.modeFor c = .ok mode)
    (h : l.structureFindings c ≠ []) (schemas : SchemaLookup) :
    l.lint c schemas = l.structureFindings c := by
  simp only [lint, hmode]

/-- Every finding is of one of the phases. -/
theorem mem_lint {schemas : SchemaLookup} {f : Finding}
    (h : f ∈ l.lint c schemas) :
    (∃ e, l.modeFor c = .error e ∧ f = e.finding) ∨
      f ∈ l.structureFindings c ∨
      ∃ mode, l.modeFor c = .ok mode ∧ l.structureFindings c = [] ∧
        f ∈ c.schemaFindings mode l.renderer schemas := by
  cases hmode : l.modeFor c with
  | error e =>
      simp only [lint, hmode, List.mem_singleton] at h
      exact .inl ⟨e, rfl, h⟩
  | ok mode =>
      by_cases hstruct : l.structureFindings c = []
      · rw [lint_of_structured hmode hstruct] at h
        exact .inr (.inr ⟨mode, rfl, hstruct, h⟩)
      · rw [lint_of_not_structured hmode hstruct] at h
        exact .inr (.inl h)

end Linter

namespace Composition

variable {c : Composition} {schemas : SchemaLookup} {f : Finding}

/-- A check against schemas finds what it does in one of its three passes. -/
theorem mem_schemaFindings_iff {mode : Mode} {renderer : Option Renderer} :
    f ∈ c.schemaFindings mode renderer schemas ↔
      f ∈ c.typeFindings mode schemas ∨ f ∈ c.templateFindings schemas ∨
        f ∈ c.renderFindings renderer schemas := by
  rw [schemaFindings, List.mem_append, List.mem_append, or_assoc]

theorem mem_typeFindings_iff {mode : Mode} :
    f ∈ c.typeFindings mode schemas ↔
      f ∈ c.compositeFindings mode schemas ∨
        ∃ (i : Nat) (t : Template), c.spec.resources[i]? = some t ∧
          f ∈ t.typeFindings i mode schemas := by
  simp only [typeFindings, List.mem_append, List.mem_flatMap, Prod.exists,
    List.mk_mem_zipIdx_iff_getElem?]
  exact or_congr_right exists_comm

theorem mem_templateFindings_iff :
    f ∈ c.templateFindings schemas ↔
      ∃ (i : Nat) (t : Template), c.spec.resources[i]? = some t ∧
        f ∈ t.findings i (t.effectivePatches c.spec.patchSets)
          (c.schema? schemas) (t.schema? schemas) := by
  simp only [templateFindings, List.mem_flatMap, Prod.exists,
    List.mk_mem_zipIdx_iff_getElem?]
  exact exists_comm

/-- How templates are rendered: not at all without a renderer, without a schema of the
composite resource, or if functions run after them. -/
def rendering? (c : Composition) (renderer : Option Renderer) (schemas : SchemaLookup) :
    Option (Template → Except RenderError Json) :=
  if c.spec.functions.isEmpty then
    renderer.bind fun render =>
      (c.schema? schemas).map fun composite => render (c.stub composite)
  else none

theorem renderFindings_eq (renderer : Option Renderer) :
    c.renderFindings renderer schemas =
      (c.rendering? renderer schemas).elim [] fun render =>
        c.spec.resources.zipIdx.flatMap fun (t, i) =>
          (t.schema? schemas).elim [] (t.renderFindings i render) := by
  unfold renderFindings rendering?
  cases renderer with
  | none => cases c.spec.functions.isEmpty <;> rfl
  | some render =>
      cases c.schema? schemas with
      | none => cases c.spec.functions.isEmpty <;> rfl
      | some composite => cases c.spec.functions.isEmpty <;> rfl

theorem rendering?_eq_some_iff {renderer : Option Renderer}
    {render : Template → Except RenderError Json} :
    c.rendering? renderer schemas = some render ↔
      c.spec.functions.isEmpty = true ∧
        ∃ renderer', renderer = some renderer' ∧
          ∃ composite, c.schema? schemas = some composite ∧
            renderer' (c.stub composite) = render := by
  rw [rendering?, Option.ite_none_right_eq_some, Option.bind_eq_some_iff]
  simp only [Option.map_eq_some_iff]

/-- Rendering finds something only in a template whose type has a schema. -/
theorem mem_renderFindings {renderer : Option Renderer}
    (h : f ∈ c.renderFindings renderer schemas) :
    ∃ (render : Renderer) (composite composed : Schema) (i : Nat) (t : Template),
      renderer = some render ∧ c.spec.resources[i]? = some t ∧
      t.schema? schemas = some composed ∧
      f ∈ t.renderFindings i (render (c.stub composite)) composed := by
  rw [renderFindings_eq] at h
  cases hrendering : c.rendering? renderer schemas with
  | none =>
      rw [hrendering] at h
      cases h
  | some render =>
      obtain ⟨-, renderer', hrenderer, composite, -, rfl⟩ := rendering?_eq_some_iff.mp hrendering
      rw [hrendering] at h
      obtain ⟨⟨t, i⟩, hmem, hf⟩ := List.mem_flatMap.mp h
      dsimp only at hf
      cases hschema : t.schema? schemas with
      | none =>
          rw [hschema] at hf
          cases hf
      | some composed =>
          rw [hschema] at hf
          exact ⟨renderer', composite, composed, i, t, hrenderer,
            List.mk_mem_zipIdx_iff_getElem?.mp hmem, hschema, hf⟩

theorem mem_unknownSetFindings_iff :
    f ∈ c.unknownSetFindings ↔
      ∃ (i : Nat) (t : Template), c.spec.resources[i]? = some t ∧
        t.unknownSetFinding c.spec.patchSets i = some f := by
  simp only [unknownSetFindings, List.mem_filterMap, Prod.exists,
    List.mk_mem_zipIdx_iff_getElem?]
  exact exists_comm

end Composition

end ComposeLint
