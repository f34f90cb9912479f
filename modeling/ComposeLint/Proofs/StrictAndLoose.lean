import ComposeLint.Proofs.FindingSites
import ComposeLint.Proofs.LintPhases

/-!
# Strict and loose runs

Strict checking finds all that loose checking finds, in the same order, and between
that one finding for every type that has no schema (`lint_strict_loose`). These are
the internal findings: nothing else that the standard rules or the checks find is
internal.

The one other source of internal findings is a renderer that fails. The renderer of
bases fails where a base is not an object, but is never asked to: a template is only
rendered if its type has a schema, and what is not an object has no type.
-/

namespace ComposeLint

/-! ## Findings that differ in internal ones -/

namespace Finding

/-- One list of findings is another with internal findings added at the given places,
in this order. -/
structure Extends (strict loose : List Finding) (sites : List Path) : Prop where
  external : strict.filter (·.kind ≠ .internal) = loose
  internal : (strict.filter (·.kind = .internal)).map (·.path) = sites

namespace Extends

variable {strict loose strict' loose' : List Finding} {sites sites' : List Path}

theorem of_external {fs : List Finding} (h : ∀ f ∈ fs, f.kind ≠ .internal) :
    Extends fs fs [] where
  external := List.filter_eq_self.mpr fun f hf => decide_eq_true (h f hf)
  internal := by
    have hnone : fs.filter (·.kind = .internal) = [] :=
      List.filter_eq_nil_iff.mpr fun f hf => by simpa using h f hf
    rw [hnone, List.map_nil]

theorem nil : Extends [] [] [] :=
  ⟨rfl, rfl⟩

theorem singleton_internal (site : Path) (detail : String) :
    Extends [.internal site detail] [] [site] :=
  ⟨rfl, rfl⟩

theorem append (h : Extends strict loose sites) (h' : Extends strict' loose' sites') :
    Extends (strict ++ strict') (loose ++ loose') (sites ++ sites') where
  external := by rw [List.filter_append, h.external, h'.external]
  internal := by rw [List.filter_append, List.map_append, h.internal, h'.internal]

theorem flatMap {α : Type} {strict loose : α → List Finding} {sites : α → List Path}
    {l : List α} (h : ∀ x ∈ l, Extends (strict x) (loose x) (sites x)) :
    Extends (l.flatMap strict) (l.flatMap loose) (l.flatMap sites) := by
  induction l with
  | nil => exact .nil
  | cons x rest ih =>
      obtain ⟨hx, hrest⟩ := List.forall_mem_cons.mp h
      simp only [List.flatMap_cons]
      exact hx.append (ih hrest)

/-- What is extended has no internal findings of its own. -/
theorem external_of_mem {f : Finding} (h : Extends strict loose sites)
    (hf : f ∈ loose) : f.kind ≠ .internal := by
  rw [← h.external] at hf
  exact of_decide_eq_true (List.mem_filter.mp hf).2

end Extends

end Finding

open Finding

/-! ## Types -/

namespace Template

variable {t : Template} {schemas : SchemaLookup} {index : Nat} {f : Finding}

/-- The type of the base is known, but not its schema. -/
def LacksSchema (t : Template) (schemas : SchemaLookup) : Prop :=
  ∃ key, t.base.typeKey = .ok key ∧ schemas key = none

theorem lacksSchema_iff {key : TypeKey} (h : t.base.typeKey = .ok key) :
    t.LacksSchema schemas ↔ schemas key = none := by
  simp [LacksSchema, h]

theorem not_lacksSchema {e : BaseError} (h : t.base.typeKey = .error e) :
    ¬ t.LacksSchema schemas := by
  simp [LacksSchema, h]

instance (t : Template) (schemas : SchemaLookup) : Decidable (t.LacksSchema schemas) :=
  match h : t.base.typeKey with
  | .ok _ => decidable_of_iff _ (lacksSchema_iff h).symm
  | .error _ => isFalse (not_lacksSchema h)

theorem typeFindings_extends :
    Extends (t.typeFindings index .strict schemas) (t.typeFindings index .loose schemas)
      (if t.LacksSchema schemas then [Template.path index] else []) := by
  cases hkey : t.base.typeKey with
  | error e =>
      rw [typeFindings, typeFindings, hkey, if_neg (not_lacksSchema hkey)]
      refine .of_external (List.forall_mem_singleton.mpr ?_)
      exact (blames_invalid (List.prefix_refl _) _ _).external
  | ok key =>
      simp only [typeFindings, hkey, lacksSchema_iff hkey]
      cases schemas key with
      | none => exact .singleton_internal _ _
      | some _ => exact .nil

end Template

namespace Composition

variable {c : Composition} {schemas : SchemaLookup} {f : Finding}

/-- The places of the types that are known and have no schema: that of the composite,
then those of the templates. -/
def sitesWithoutSchema (c : Composition) (schemas : SchemaLookup) : List Path :=
  (if schemas c.spec.compositeType.key = none then
    [[.field "spec", .field "compositeTypeRef"]] else []) ++
  c.spec.resources.zipIdx.flatMap fun (t, i) =>
    if t.LacksSchema schemas then [Template.path i] else []

theorem compositeFindings_extends :
    Extends (c.compositeFindings .strict schemas) (c.compositeFindings .loose schemas)
      (if schemas c.spec.compositeType.key = none then
        [[.field "spec", .field "compositeTypeRef"]] else []) := by
  unfold compositeFindings schema?
  cases schemas c.spec.compositeType.key with
  | none => exact .singleton_internal _ _
  | some _ => exact .nil

theorem typeFindings_extends :
    Extends (c.typeFindings .strict schemas) (c.typeFindings .loose schemas)
      (c.sitesWithoutSchema schemas) :=
  compositeFindings_extends.append (.flatMap fun _ _ => Template.typeFindings_extends)

/-! ## All other findings -/

theorem external_of_mem_templateFindings (h : f ∈ c.templateFindings schemas) :
    f.kind ≠ .internal := by
  obtain ⟨_, _, -, hf⟩ := mem_templateFindings_iff.mp h
  exact (Template.blames_of_mem_findings hf).external

theorem external_of_mem_unknownSetFindings (h : f ∈ c.unknownSetFindings) :
    f.kind ≠ .internal := by
  obtain ⟨_, _, -, hf⟩ := mem_unknownSetFindings_iff.mp h
  obtain ⟨_, _, _, -, -, rfl⟩ := Template.of_unknownSetFinding hf
  exact (PatchSet.blames_unknownFinding _ _).external

end Composition

theorem Json.isObject_of_typeKey {v : Json} {key : TypeKey} (h : v.typeKey = .ok key) :
    v.isObject = true := by
  cases v with
  | obj _ => rfl
  | _ => cases h

namespace Template

variable {t : Template} {schemas : SchemaLookup} {composed : Schema}

/-- A template whose type has a schema has an object as its base. -/
theorem isObject_of_schema? (h : t.schema? schemas = some composed) :
    t.base.isObject = true := by
  cases hkey : t.base.typeKey with
  | error _ =>
      rw [schema?, hkey] at h
      cases h
  | ok _ => exact Json.isObject_of_typeKey hkey

theorem external_of_mem_renderFindings {index : Nat} {composite : Json} {f : Finding}
    (hbase : t.base.isObject = true)
    (h : f ∈ t.renderFindings index (Renderer.base composite) composed) :
    f.kind ≠ .internal := by
  have hrender : Renderer.base composite t = .ok t.base := if_pos hbase
  rw [renderFindings, hrender] at h
  obtain ⟨_, -, rfl⟩ := List.mem_map.mp h
  exact (blames_invalid (List.prefix_refl _) _ _).external

end Template

namespace Linter

variable {c : Composition} {schemas : SchemaLookup} {f : Finding} {renders : Bool}
  {mode : Option Mode}

theorem external_of_mem_structureFindings
    (h : f ∈ (standard renders mode).structureFindings c) : f.kind ≠ .internal := by
  rcases mem_structureFindings h with h | h
  · exact (Rule.not_patch_of_mem_apply h).1
  · exact Composition.external_of_mem_unknownSetFindings h

theorem external_of_mem_renderFindings
    (h : f ∈ c.renderFindings (standard renders mode).renderer schemas) :
    f.kind ≠ .internal := by
  obtain ⟨render, _, _, _, t, hrenderer, -, hschema, hf⟩ := Composition.mem_renderFindings h
  cases renders with
  | false => cases hrenderer
  | true =>
      cases hrenderer
      exact Template.external_of_mem_renderFindings (Template.isObject_of_schema? hschema) hf

theorem schemaFindings_extends :
    Extends (c.schemaFindings .strict (standard renders mode).renderer schemas)
      (c.schemaFindings .loose (standard renders mode).renderer schemas)
      (c.sitesWithoutSchema schemas) := by
  have htemplates := Extends.of_external fun f (hf : f ∈ c.templateFindings schemas) =>
    Composition.external_of_mem_templateFindings hf
  have hrender := Extends.of_external fun f
    (hf : f ∈ c.renderFindings (standard renders mode).renderer schemas) =>
      external_of_mem_renderFindings hf
  rw [Composition.schemaFindings, Composition.schemaFindings]
  simpa only [List.append_nil] using
    (Composition.typeFindings_extends.append htemplates).append hrender

/-- Strict checking adds to what loose checking finds one internal finding for every
known type without a schema, if it gets as far as schemas. -/
theorem lint_extends :
    Extends ((standard renders (some .strict)).lint c schemas)
      ((standard renders (some .loose)).lint c schemas)
      (if Rule.apply Rule.standard c = [] ∧ c.unknownSetFindings = [] then
        c.sitesWithoutSchema schemas else []) := by
  have hstrict := modeFor_of_mode (l := standard renders (some .strict)) (c := c) rfl
  have hloose := modeFor_of_mode (l := standard renders (some .loose)) (c := c) rfl
  -- The structure is checked without a look at the mode.
  have hsame : (standard renders (some .strict)).structureFindings c =
      (standard renders (some .loose)).structureFindings c := rfl
  have hpast : (standard renders (some .loose)).structureFindings c = [] ↔
      Rule.apply Rule.standard c = [] ∧ c.unknownSetFindings = [] :=
    structureFindings_eq_nil_iff
  by_cases h : (standard renders (some .loose)).structureFindings c = []
  · rw [lint_of_structured hstrict (hsame.trans h), lint_of_structured hloose h,
      if_pos (hpast.mp h)]
    exact schemaFindings_extends
  · rw [lint_of_not_structured hstrict (hsame ▸ h), lint_of_not_structured hloose h,
      if_neg (mt hpast.mpr h), hsame]
    exact .of_external fun _ hf => external_of_mem_structureFindings hf

/-- Without its internal findings a strict run is the loose one, which has none, and
its internal findings are those of the known types without a schema. -/
theorem lint_strict_loose (renders : Bool) (c : Composition) (schemas : SchemaLookup) :
    let strict := (standard renders (some .strict)).lint c schemas
    let loose := (standard renders (some .loose)).lint c schemas
    (∀ f ∈ loose, f.kind ≠ .internal) ∧
      strict.filter (·.kind ≠ .internal) = loose ∧
      (strict.filter (·.kind = .internal)).map (·.path) =
        if Rule.apply Rule.standard c = [] ∧ c.unknownSetFindings = [] then
          c.sitesWithoutSchema schemas else [] := by
  intro strict loose
  have h : Extends strict loose _ := lint_extends
  exact ⟨fun _ => h.external_of_mem, h.external, h.internal⟩

end Linter

end ComposeLint
