import Mathlib.Data.List.Nodup
import ComposeLint.Composition.Rules
import ComposeLint.Proofs.Positions

/-!
# When a composition is well-structured

The rules say what they find, in the order in which they find it. What a
composition must be for them to find nothing is said here without them, as
`Composition.Structured`: five conditions on names, functions and patch sets.

The rules against repeated names look back from every name to those before it. A
name that stands at a smaller position already is found at its second place and
at every later one, so nothing is found exactly if no two places agree
(`forall_take_iff_pairwise`).
-/

namespace ComposeLint

/-- The fields that the type of the patch needs are all there. -/
def Patch.WellShaped (p : Patch) : Prop := ∃ action, p.action = .ok action

/-- What the structural rules ask for. -/
structure Composition.Structured (c : Composition) : Prop where
  allOrNoneNamed : (∀ t ∈ c.spec.resources, t.name ≠ none) ∨
    ∀ t ∈ c.spec.resources, t.name = none
  distinctNames : (c.spec.resources.filterMap (·.name)).Nodup
  namedForFunctions : c.spec.functions ≠ [] → ∀ t ∈ c.spec.resources, t.name ≠ none
  completeFunctions : ∀ f ∈ c.spec.functions, f.type = "Container" ∧ f.container ≠ none
  distinctSets : (c.spec.patchSets.map (·.name)).Nodup
  soundSets : ∀ set ∈ c.spec.patchSets, ∀ p ∈ set.patches,
    p.kind ≠ .patchSet ∧ p.WellShaped

theorem FunctionType.ofName?_eq_some_iff {s : String} :
    (∃ type, ofName? s = some type) ↔ s = "Container" := by
  by_cases h : s = "Container"
  · subst h
    exact ⟨fun _ => rfl, fun _ => ⟨.container, rfl⟩⟩
  · simp [ofName?, name, h, eq_comm]

namespace Rule

variable {c : Composition}

theorem allOrNoneNamed_eq_nil_iff :
    allOrNoneNamed c = [] ↔
      (∀ t ∈ c.spec.resources, t.name ≠ none) ∨
        ∀ t ∈ c.spec.resources, t.name = none := by
  have hsome : (templateNames c).any Option.isSome = false ↔
      ∀ t ∈ c.spec.resources, t.name = none := by
    simp [templateNames]
  have hnone : (templateNames c).any Option.isNone = false ↔
      ∀ t ∈ c.spec.resources, t.name ≠ none := by
    simp [templateNames]
  rw [← hsome, ← hnone, allOrNoneNamed]
  cases (templateNames c).any Option.isSome <;>
    cases (templateNames c).any Option.isNone <;> simp

theorem repeated_eq_nil_iff {names : List (Option String)} :
    repeated names = [] ↔ (names.filterMap id).Nodup := by
  rw [List.Nodup, List.pairwise_filterMap, ← forall_take_iff_pairwise, repeated,
    List.filterMap_eq_nil_iff, forall_mem_zipIdx_iff]
  refine forall₂_congr fun i x => imp_congr_right fun _ => ?_
  cases x with
  | none => simp
  | some s =>
      simp only [ite_eq_right_iff, reduceCtorEq, imp_false, id_eq,
        Option.some.injEq, List.contains_iff_mem]
      constructor
      · rintro h _ hy s' rfl _ rfl rfl
        exact h hy
      · intro h hs
        exact h _ hs s rfl s rfl rfl

theorem distinctNames_eq_nil_iff :
    distinctNames c = [] ↔ (c.spec.resources.filterMap (·.name)).Nodup := by
  rw [distinctNames, List.map_eq_nil_iff, repeated_eq_nil_iff, templateNames,
    List.filterMap_map]
  rfl

theorem namedForFunctions_eq_nil_iff :
    namedForFunctions c = [] ↔
      (c.spec.functions ≠ [] → ∀ t ∈ c.spec.resources, t.name ≠ none) := by
  rw [namedForFunctions]
  split
  · next h => simp [List.isEmpty_iff.mp h]
  · next h =>
      have hne : c.spec.functions ≠ [] := by simpa using h
      have hnames : (∀ name ∈ templateNames c, name ≠ none) ↔
          ∀ t ∈ c.spec.resources, t.name ≠ none := by
        rw [templateNames, List.forall_mem_map]
      rw [imp_iff_right hne, ← hnames]
      refine filterMap_zipIdx_eq_nil_iff fun name i => ?_
      cases name <;> simp

theorem functionFinding_eq_none_iff {path : Path} {f : Function} :
    functionFinding path f = none ↔ f.type = "Container" ∧ f.container ≠ none := by
  rw [← FunctionType.ofName?_eq_some_iff, functionFinding]
  cases FunctionType.ofName? f.type with
  | none => simp
  | some type =>
      cases type
      cases f.container with
      | none => simp
      | some _ => exact iff_of_true rfl ⟨⟨_, rfl⟩, nofun⟩

theorem completeFunctions_eq_nil_iff :
    completeFunctions c = [] ↔
      ∀ f ∈ c.spec.functions, f.type = "Container" ∧ f.container ≠ none :=
  filterMap_zipIdx_eq_nil_iff fun _ _ => functionFinding_eq_none_iff

theorem setPatchFinding_eq_none_iff {path : Path} {p : Patch} :
    setPatchFinding path p = none ↔ p.kind ≠ .patchSet ∧ p.WellShaped := by
  rw [setPatchFinding, Patch.WellShaped]
  split
  · next h => simp [h]
  · next h =>
      cases p.action with
      | error e => simp
      | ok action => simp [h]

theorem patchesFindings_eq_nil_iff {path : Path} {set : PatchSet} :
    patchesFindings path set = [] ↔
      ∀ p ∈ set.patches, p.kind ≠ .patchSet ∧ p.WellShaped :=
  filterMap_zipIdx_eq_nil_iff fun _ _ => setPatchFinding_eq_none_iff

theorem soundPatchSets_eq_nil_iff :
    soundPatchSets c = [] ↔
      (c.spec.patchSets.map (·.name)).Nodup ∧
        ∀ set ∈ c.spec.patchSets, ∀ p ∈ set.patches,
          p.kind ≠ .patchSet ∧ p.WellShaped := by
  have hback : (c.spec.patchSets.map (·.name)).Nodup ↔
      ∀ v ∈ c.spec.patchSets.zipIdx,
        v.1.name ∉ (c.spec.patchSets.map (·.name)).take v.2 := by
    rw [List.Nodup, List.pairwise_map, ← forall_take_iff_pairwise,
      forall_mem_zipIdx_iff]
    refine forall₂_congr fun i set => imp_congr_right fun _ => ?_
    rw [← List.map_take, List.mem_map, not_exists]
    exact forall_congr' fun _ => not_and.symm
  have hsets : (∀ v ∈ c.spec.patchSets.zipIdx, ∀ p ∈ v.1.patches,
      p.kind ≠ .patchSet ∧ p.WellShaped) ↔
      ∀ set ∈ c.spec.patchSets, ∀ p ∈ set.patches,
        p.kind ≠ .patchSet ∧ p.WellShaped :=
    forall_mem_zipIdx_iff_of_fst fun _ _ => Iff.rfl
  rw [hback, ← hsets, ← forall₂_and, soundPatchSets, List.flatMap_eq_nil_iff]
  refine forall₂_congr fun v _ => ?_
  rw [List.append_eq_nil_iff, patchesFindings_eq_nil_iff]
  refine and_congr_left' ?_
  simp

/-- The rules find nothing exactly in compositions that are well-structured. -/
theorem apply_standard_eq_nil_iff : apply standard c = [] ↔ c.Structured := by
  simp only [apply, standard, List.flatMap_cons, List.flatMap_nil,
    List.append_nil, List.append_eq_nil_iff, allOrNoneNamed_eq_nil_iff,
    distinctNames_eq_nil_iff, namedForFunctions_eq_nil_iff,
    completeFunctions_eq_nil_iff, soundPatchSets_eq_nil_iff]
  constructor
  · rintro ⟨hnamed, hnames, hfunctions, hcomplete, hsets, hsound⟩
    exact ⟨hnamed, hnames, hfunctions, hcomplete, hsets, hsound⟩
  · intro h
    exact ⟨h.allOrNoneNamed, h.distinctNames, h.namedForFunctions,
      h.completeFunctions, h.distinctSets, h.soundSets⟩

end Rule

end ComposeLint
