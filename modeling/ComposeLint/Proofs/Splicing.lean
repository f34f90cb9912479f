import ComposeLint.Proofs.LintPhases
import ComposeLint.Proofs.RuleVerdict

/-!
# Patch sets are macros

A reference to a patch set stands for the patches of the set and for nothing more:
a composition in which every reference is replaced by them, and which has no sets
any more, is checked with the same findings in the same order (`lint_splice`).

Templates are rendered as they were declared, so the renderer must not look at
patches. And splicing goes one level deep: that it leaves no reference behind is
not its own doing but that of the rule against nested sets, which has looked at
the patches of every set before any of them is spliced.
-/

namespace ComposeLint

/-! ## References -/

theorem PatchType.shape_eq_splice_iff {type : PatchType} :
    type.shape = .splice ↔ type = .patchSet := by
  cases type <;> simp [shape]

namespace Patch

variable {p : Patch} {name : String} {sets : List PatchSet}

theorem reference?_eq_some_iff :
    p.reference? = some name ↔ p.action = .ok (.splice name) := by
  rw [reference?]
  split
  · next name' h => rw [h, Option.some.injEq, Except.ok.injEq, PatchAction.splice.injEq]
  · next h =>
      constructor
      · nofun
      · intro haction
        exact absurd haction (h name)

/-- A reference is a patch of type `PatchSet` that gives a name. -/
theorem action_eq_splice_iff :
    p.action = .ok (.splice name) ↔
      p.kind = .patchSet ∧ p.patchSetName = some name ∧ name ≠ "" := by
  rw [← nonEmpty_eq_some_iff, ← PatchType.shape_eq_splice_iff, action]
  cases p.kind.shape with
  | copy direction =>
      dsimp only
      split <;> simp
  | combine direction =>
      dsimp only
      split
      · simp
      · split
        · simp
        · split <;> simp
  | splice =>
      dsimp only
      split
      · next h => simp [h]
      · next h => simp [h]

theorem reference?_of_kind_ne (h : p.kind ≠ .patchSet) : p.reference? = none := by
  cases href : p.reference? with
  | none => rfl
  | some name =>
      have haction := reference?_eq_some_iff.mp href
      exact absurd (action_eq_splice_iff.mp haction).1 h

theorem isNone_find?_iff :
    (PatchSet.find? name sets).isNone = true ↔ ¬ ∃ set ∈ sets, set.name = name := by
  simp [PatchSet.find?]

theorem unknownSet?_eq_none_iff :
    p.unknownSet? sets = none ↔
      ∀ name, p.action = .ok (.splice name) → ∃ set ∈ sets, set.name = name := by
  rw [unknownSet?, Option.filter_eq_none_iff]
  simp only [isNone_find?_iff, not_not, reference?_eq_some_iff]

theorem splice_of_reference?_none (h : p.reference? = none) :
    p.splice sets = [p] := by
  rw [splice, h]

/-- What a patch stands for is the patch itself, if it is no reference, or a patch
of a set. -/
theorem mem_splice {p' : Patch} (h : p' ∈ p.splice sets) :
    (p.reference? = none ∧ p' = p) ∨ ∃ set ∈ sets, p' ∈ set.patches := by
  rw [splice] at h
  split at h
  · next href => exact .inl ⟨href, List.mem_singleton.mp h⟩
  · next name _ =>
      cases hset : PatchSet.find? name sets with
      | none =>
          rw [hset] at h
          cases h
      | some set =>
          rw [hset] at h
          exact .inr ⟨set, List.mem_of_find?_eq_some hset, h⟩

end Patch

/-- Every reference of a template names a set that exists. -/
def Composition.ReferencesDeclared (c : Composition) : Prop :=
  ∀ t ∈ c.spec.resources, ∀ p ∈ t.patches, ∀ name,
    p.action = .ok (.splice name) → ∃ set ∈ c.spec.patchSets, set.name = name

theorem Composition.unknownSetFindings_eq_nil_iff {c : Composition} :
    c.unknownSetFindings = [] ↔ c.ReferencesDeclared := by
  refine filterMap_zipIdx_eq_nil_iff fun t i => ?_
  show t.unknownSetFinding c.spec.patchSets i = none ↔ _
  rw [Template.unknownSetFinding, List.findSome?_eq_none_iff]
  refine forall_mem_zipIdx_iff_of_fst fun p j => ?_
  rw [Option.map_eq_none_iff, Patch.unknownSet?_eq_none_iff]

/-- A run gets as far as schemas exactly if no rule is broken and all references
resolve. -/
theorem Linter.structureFindings_eq_nil_iff_declared {l : Linter} {c : Composition} :
    l.structureFindings c = [] ↔ Rule.apply l.rules c = [] ∧ c.ReferencesDeclared := by
  rw [structureFindings_eq_nil_iff, Composition.unknownSetFindings_eq_nil_iff]

/-- With the standard rules the composition must be well-structured. -/
theorem Linter.structureFindings_standard_eq_nil_iff {renders : Bool}
    {mode : Option Mode} {c : Composition} :
    (standard renders mode).structureFindings c = [] ↔
      c.Structured ∧ c.ReferencesDeclared := by
  rw [structureFindings_eq_nil_iff_declared, ← Rule.apply_standard_eq_nil_iff]
  rfl

/-! ## After splicing -/

namespace Template

variable {t : Template} {sets : List PatchSet}

/-- Where there are no references, splicing does nothing. -/
theorem effectivePatches_of_no_reference (h : ∀ p ∈ t.patches, p.reference? = none) :
    t.effectivePatches sets = t.patches := by
  have hsingle : t.patches.flatMap (Patch.splice sets) = t.patches.flatMap ([·]) :=
    List.flatMap_congr fun p hp => Patch.splice_of_reference?_none (h p hp)
  rw [effectivePatches, hsingle, List.flatMap_singleton']

theorem reference?_of_mem_effectivePatches
    (hsets : ∀ set ∈ sets, ∀ p ∈ set.patches, p.kind ≠ .patchSet) {p : Patch}
    (h : p ∈ t.effectivePatches sets) : p.reference? = none := by
  obtain ⟨declared, -, hp⟩ := List.mem_flatMap.mp h
  rcases Patch.mem_splice hp with ⟨href, rfl⟩ | ⟨set, hset, hmem⟩
  · exact href
  · exact Patch.reference?_of_kind_ne (hsets set hset p hmem)

theorem renderFindings_splice {index : Nat}
    {render : Template → Except RenderError Json} {composed : Schema}
    (h : render (t.splice sets) = render t) :
    (t.splice sets).renderFindings index render composed =
      t.renderFindings index render composed := by
  rw [renderFindings, renderFindings, h]
  rfl

end Template

namespace Composition

variable {c : Composition}

theorem Structured.kind_ne_patchSet (h : c.Structured) :
    ∀ set ∈ c.spec.patchSets, ∀ p ∈ set.patches, p.kind ≠ .patchSet :=
  fun set hset p hp => (h.soundSets set hset p hp).1

theorem mem_resources_splice_iff {t : Template} :
    t ∈ c.splice.spec.resources ↔
      ∃ declared ∈ c.spec.resources, declared.splice c.spec.patchSets = t :=
  List.mem_map

/-- Splicing leaves no reference behind. -/
theorem reference?_of_mem_splice (h : c.Structured) :
    ∀ t ∈ c.splice.spec.resources, ∀ p ∈ t.patches, p.reference? = none := by
  intro t ht p hp
  obtain ⟨declared, -, rfl⟩ := mem_resources_splice_iff.mp ht
  -- One round is enough, as no patch of a set is of the type that refers to sets.
  exact Template.reference?_of_mem_effectivePatches h.kind_ne_patchSet hp

/-- Splicing keeps the names of templates and the functions, and with them the
structure. -/
theorem structured_splice (h : c.Structured) : c.splice.Structured where
  allOrNoneNamed := by
    simp only [mem_resources_splice_iff, forall_exists_index, and_imp,
      forall_apply_eq_imp_iff₂]
    exact h.allOrNoneNamed
  distinctNames := by
    have hnames : c.splice.spec.resources.filterMap (·.name) =
        c.spec.resources.filterMap (·.name) :=
      List.filterMap_map
    rw [hnames]
    exact h.distinctNames
  namedForFunctions := by
    simp only [mem_resources_splice_iff, forall_exists_index, and_imp,
      forall_apply_eq_imp_iff₂]
    exact h.namedForFunctions
  completeFunctions := h.completeFunctions
  distinctSets := List.nodup_nil
  soundSets := nofun

theorem referencesDeclared_splice (h : c.Structured) : c.splice.ReferencesDeclared := by
  intro t ht p hp name haction
  have hnone := reference?_of_mem_splice h t ht p hp
  rw [Patch.reference?_eq_some_iff.mpr haction] at hnone
  cases hnone

/-! ## The same findings -/

variable {mode : Mode} {schemas : SchemaLookup}

theorem typeFindings_splice :
    c.splice.typeFindings mode schemas = c.typeFindings mode schemas := by
  rw [typeFindings, typeFindings]
  congr 1
  exact flatMap_zipIdx_map

/-- What the spliced templates say is what the declared ones say with their patches
spliced: there is nothing left to splice. -/
theorem templateFindings_splice (h : c.Structured) :
    c.splice.templateFindings schemas = c.templateFindings schemas := by
  rw [templateFindings, templateFindings]
  refine flatMap_zipIdx_map.trans (List.flatMap_congr fun v hv => ?_)
  have hnone : ∀ p ∈ (v.1.splice c.spec.patchSets).patches, p.reference? = none :=
    reference?_of_mem_splice h _
      (List.mem_map_of_mem (List.fst_mem_of_mem_zipIdx hv))
  dsimp only
  rw [Template.effectivePatches_of_no_reference hnone]
  rfl

theorem renderFindings_splice {renderer : Option Renderer}
    (h : ∀ render, renderer = some render → ∀ composite sets t,
      render composite (Template.splice sets t) = render composite t) :
    c.splice.renderFindings renderer schemas = c.renderFindings renderer schemas := by
  have hrendering : c.splice.rendering? renderer schemas = c.rendering? renderer schemas := rfl
  rw [renderFindings_eq, renderFindings_eq, hrendering]
  cases hsome : c.rendering? renderer schemas with
  | none => rfl
  | some render =>
      obtain ⟨-, renderer', hrenderer, composite, -, rfl⟩ := rendering?_eq_some_iff.mp hsome
      refine flatMap_zipIdx_map.trans (List.flatMap_congr fun v _ => ?_)
      exact congrArg (Option.elim _ []) (funext fun _ =>
        Template.renderFindings_splice (h renderer' hrenderer _ _ _))

theorem schemaFindings_splice {renderer : Option Renderer} (hc : c.Structured)
    (h : ∀ render, renderer = some render → ∀ composite sets t,
      render composite (Template.splice sets t) = render composite t) :
    c.splice.schemaFindings mode renderer schemas =
      c.schemaFindings mode renderer schemas := by
  rw [schemaFindings, schemaFindings, typeFindings_splice, templateFindings_splice hc,
    renderFindings_splice h]

end Composition

namespace Linter

theorem renderer_standard_splice {renders : Bool} {mode : Option Mode} :
    ∀ render, (standard renders mode).renderer = some render → ∀ composite sets t,
      render composite (Template.splice sets t) = render composite t := by
  intro render h composite sets t
  cases renders with
  | false => cases h
  | true =>
      cases h
      rfl

/-- A composition is checked as if the patches of its sets were written out where
the sets are referred to, and where they are, no reference is left. -/
theorem lint_splice {c : Composition} (hrules : Rule.apply Rule.standard c = [])
    (hdeclared : c.ReferencesDeclared) (renders : Bool) (mode : Option Mode)
    (schemas : SchemaLookup) :
    (standard renders mode).lint c.splice schemas =
        (standard renders mode).lint c schemas ∧
      ∀ t ∈ c.splice.spec.resources, ∀ p ∈ t.patches, ∀ name,
        p.action ≠ .ok (.splice name) := by
  have hc := Rule.apply_standard_eq_nil_iff.mp hrules
  have hspliced := Composition.reference?_of_mem_splice hc
  constructor
  · have hbefore : (standard renders mode).structureFindings c = [] :=
      structureFindings_standard_eq_nil_iff.mpr ⟨hc, hdeclared⟩
    have hafter : (standard renders mode).structureFindings c.splice = [] :=
      structureFindings_standard_eq_nil_iff.mpr
        ⟨Composition.structured_splice hc, Composition.referencesDeclared_splice hc⟩
    have hmode : (standard renders mode).modeFor c.splice =
        (standard renders mode).modeFor c := rfl
    rw [lint, lint, hmode, hbefore, hafter]
    simp only [Composition.schemaFindings_splice hc renderer_standard_splice]
  · intro t ht p hp name haction
    have hnone := hspliced t ht p hp
    rw [Patch.reference?_eq_some_iff.mpr haction] at hnone
    cases hnone

end Linter

/-! ## A composition with two sets -/

namespace Patch

/-- A patch that gives nothing, and so lacks its source. -/
def blank : Patch where
  type := none
  fromFieldPath := none
  toFieldPath := none
  combine := none
  patchSetName := none
  transforms := []
  policy := none

def copying (field : String) : Patch := { blank with fromFieldPath := some field }

def referring (set : String) : Patch :=
  { blank with type := some .patchSet, patchSetName := some set }

end Patch

/-- One template with the given patches, beside a set of two patches and an empty one. -/
def Composition.labelled (patches : List Patch) : Composition where
  metadata := ⟨some "buckets", none, none, none, none, none, none⟩
  spec :=
    { compositeType := ⟨"example.org/v1", "XBucket"⟩
      patchSets :=
        [⟨"labels", [.copying "metadata.labels", .copying "metadata.annotations"]⟩,
          ⟨"nothing", []⟩]
      resources :=
        [{ name := none
           base := .obj [("apiVersion", .str "example.org/v1"), ("kind", .str "Bucket")]
           patches
           connectionDetails := []
           readinessChecks := [] }]
      functions := []
      secretsNamespace := none }

theorem Linter.lint_splice_labelled :
    let c := Composition.labelled
      [.referring "labels", .referring "nothing", .copying "spec.size", .referring "labels"]
    Rule.apply Rule.standard c = [] ∧ c.ReferencesDeclared ∧
      (standard true (some .strict)).lint c.splice (fun _ => none) =
        (standard true (some .strict)).lint c (fun _ => none) ∧
      ∀ t ∈ c.splice.spec.resources, ∀ p ∈ t.patches, ∀ name,
        p.action ≠ .ok (.splice name) := by
  intro c
  have hrules : Rule.apply Rule.standard c = [] := rfl
  have hdeclared : c.ReferencesDeclared :=
    Composition.unknownSetFindings_eq_nil_iff.mp rfl
  exact ⟨hrules, hdeclared, lint_splice hrules hdeclared true (some .strict) _⟩

end ComposeLint
