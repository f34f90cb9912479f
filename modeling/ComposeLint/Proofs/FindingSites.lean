import ComposeLint.Composition.Linter

/-!
# What findings blame

A finding is of use only if it points at what is wrong. Every check is given the
path of what it checks and puts it in front of all that it reports, so a finding
of a patch stands at or below the path that the check was given, a finding of a
connection detail below `connectionDetails`, and so on up to whole templates.

The same checks blame the document alone. Internal findings, which blame the
environment, come from two places only: a type without a schema, and a renderer
that fails. `Finding.Blames` says both at once, and there is one lemma for every
check.
-/

namespace ComposeLint

/-! ## Paths -/

namespace Path

theorem le_child (path : Path) (name : String) : path <+: path.child name :=
  List.prefix_append _ _

theorem le_item (path : Path) (index : Nat) : path <+: path.item index :=
  List.prefix_append _ _

/-- Two paths that go on differently from a path do not lead to the same place. -/
theorem segment_unique {a b : Segment} {path p : Path} (ha : path ++ [a] <+: p)
    (hb : path ++ [b] <+: p) : a = b := by
  have heq := (List.prefix_of_prefix_length_le ha hb (by simp)).eq_of_length (by simp)
  simpa using heq

/-- Neither path leads to the other. -/
def Apart (p q : Path) : Prop := ¬ p <+: q ∧ ¬ q <+: p

/-- What is below one of two paths that are apart is not below the other. -/
theorem Apart.not_le {p q path : Path} (h : p.Apart q) (hq : q <+: path) :
    ¬ p <+: path := by
  intro hp
  rcases List.prefix_or_prefix_of_prefix hp hq with hle | hle
  · exact h.1 hle
  · exact h.2 hle

end Path

/-- The path of a patch determines which patch it is. -/
theorem Patch.path_inj_of_le {i j i' j' : Nat} {path : Path}
    (h : Patch.path i j <+: path) (h' : Patch.path i' j' <+: path) :
    i = i' ∧ j = j' := by
  have hle := List.prefix_of_prefix_length_le h h' (Nat.le_refl _)
  have heq := hle.eq_of_length rfl
  simp only [Patch.path, List.cons.injEq, Segment.index.injEq] at heq
  exact ⟨heq.2.2.1, heq.2.2.2.2.1⟩

theorem Patch.path_apart_child {i j k : Nat} {name : String}
    (h : name ≠ "patches") :
    Path.Apart (Patch.path i j) ((Template.path k).child name) := by
  simp [Path.Apart, Patch.path, Template.path, Path.child, h, h.symm]

namespace Finding

/-- A finding that blames the document for what stands at a path or below it. -/
structure Blames (f : Finding) (path : Path) : Prop where
  below : path <+: f.path
  external : f.kind ≠ .internal

variable {α : Type} [Encode α] {path site : Path}

theorem Blames.trans {f : Finding} (h : f.Blames site) (hle : path <+: site) :
    f.Blames path :=
  ⟨hle.trans h.below, h.external⟩

theorem blames_invalid (h : path <+: site) (value : α) (detail : String) :
    (invalid site value detail).Blames path :=
  ⟨h, nofun⟩

theorem blames_duplicate (h : path <+: site) (value : α) (detail : String) :
    (duplicate site value detail).Blames path :=
  ⟨h, nofun⟩

theorem blames_required (h : path <+: site) (detail : String) :
    (required site detail).Blames path :=
  ⟨h, nofun⟩

end Finding

open Finding

/-! ## Patches -/

theorem PatchError.blames (e : PatchError) (patch : Path) :
    (e.finding patch).Blames patch :=
  blames_required (List.prefix_append _ _) _

theorem ChainError.blames (e : ChainError) (patch : Path)
    (transforms : List Transform) :
    (e.finding patch transforms).Blames patch := by
  have hchild := Path.le_child patch "transforms"
  have hitem := fun index => hchild.trans (Path.le_item _ index)
  cases e with
  | invalidTransform index _ => exact blames_invalid (hitem index) _ _
  | inputMismatch index _ _ => exact blames_invalid (hitem index) _ _
  | unsupportedConversion index _ _ _ => exact blames_invalid (hitem index) _ _
  | transformRequired _ _ => exact blames_required hchild _
  | outputMismatch _ _ => exact blames_invalid hchild _ _

theorem PatchFault.blames (fault : PatchFault) (patch : Path) :
    (fault.finding patch).Blames patch := by
  have hchild := Path.le_child patch
  have hcombine := fun name => (hchild "combine").trans (Path.le_child _ name)
  cases fault with
  | unresolvedSource _ _ => exact blames_invalid (hchild _) _ _
  | unresolvedDestination _ _ => exact blames_invalid (hchild _) _ _
  | optionalSource _ _ => exact blames_invalid (hchild _) _ _
  | unresolvedVariable _ _ _ _ => exact blames_invalid (hchild _) _ _
  | optionalVariables _ _ => exact blames_invalid (hchild _) _ _
  | missingStringFormat => exact blames_required (hcombine _) _
  | unknownStrategy _ => exact blames_invalid (hcombine _) _ _
  | chain transforms cause => exact cause.blames patch transforms

theorem Patch.blames_of_mem_check {p : Patch} {path : Path}
    {composite composed : Schema} {f : Finding}
    (h : f ∈ p.check path composite composed) : f.Blames path := by
  rw [Patch.check] at h
  split at h
  · cases h
  · split at h
    · next e _ =>
        rw [List.mem_singleton] at h
        exact h ▸ e.blames path
    · obtain ⟨fault, -, rfl⟩ := List.mem_map.mp h
      exact fault.blames path

namespace Template

theorem blames_of_mem_patchFindings {p : Patch} {path : Path}
    {composite composed : Option Schema} {f : Finding}
    (h : f ∈ patchFindings p path composite composed) : f.Blames path := by
  unfold patchFindings at h
  split at h
  · next e _ =>
      rw [List.mem_singleton] at h
      exact h ▸ e.blames path
  · split at h
    · exact Patch.blames_of_mem_check h
    · cases h

end Template

/-! ## Details and readiness -/

theorem ConnectionDetail.blames_of_check {d : ConnectionDetail} {path : Path}
    {composed : Schema} {f : Finding} (h : d.check path composed = some f) :
    f.Blames path := by
  rw [ConnectionDetail.check] at h
  split at h
  · cases h
  · split at h
    · cases h
    · cases h
      exact blames_invalid (Path.le_child _ _) _ _

theorem ReadinessFault.blames (fault : ReadinessFault) (path : Path) :
    (fault.finding path).Blames path := by
  have hchild := Path.le_child path
  have hcondition := fun name =>
    (hchild "matchCondition").trans (Path.le_child _ name)
  cases fault with
  | missingCondition => exact blames_required (hchild _) _
  | emptyConditionType => exact blames_required (hcondition _) _
  | emptyConditionStatus => exact blames_required (hcondition _) _
  | missingString => exact blames_required (hchild _) _
  | missingInteger => exact blames_required (hchild _) _
  | missingFieldPath _ => exact blames_required (hchild _) _
  | unresolved _ _ => exact blames_invalid (hchild _) _ _
  | mismatch _ _ => exact blames_invalid (hchild _) _ _

namespace Template

variable {t : Template} {index : Nat} {f : Finding}

theorem blames_of_mem_checkConnectionDetails {composed : Schema}
    (h : f ∈ t.checkConnectionDetails index composed) :
    f.Blames ((Template.path index).child "connectionDetails") := by
  obtain ⟨⟨detail, i⟩, -, hf⟩ := List.mem_filterMap.mp h
  exact (detail.blames_of_check hf).trans (Path.le_item _ i)

theorem blames_of_mem_checkReadiness {composed : Option Schema}
    (h : f ∈ t.checkReadiness index composed) :
    f.Blames ((Template.path index).child "readinessChecks") := by
  obtain ⟨⟨check, i⟩, -, hf⟩ := List.mem_filterMap.mp h
  obtain ⟨fault, -, rfl⟩ := Option.map_eq_some_iff.mp hf
  exact (fault.blames _).trans (Path.le_item _ i)

/-- What a template says is wrong in its patches, its details or its readiness
checks. -/
theorem mem_findings_iff {patches : List Patch}
    {composite composed : Option Schema} :
    f ∈ t.findings index patches composite composed ↔
      (∃ j p, patches[j]? = some p ∧
        f ∈ patchFindings p (Patch.path index j) composite composed) ∨
      (∃ schema, composed = some schema ∧
        f ∈ t.checkConnectionDetails index schema) ∨
      f ∈ t.checkReadiness index composed := by
  have hdetails : f ∈ composed.elim [] (t.checkConnectionDetails index) ↔
      ∃ schema, composed = some schema ∧
        f ∈ t.checkConnectionDetails index schema := by
    cases composed with
    | none => simp
    | some schema => simp
  simp only [findings, List.mem_append, List.mem_flatMap, Prod.exists,
    List.mk_mem_zipIdx_iff_getElem?, hdetails, or_assoc]
  exact or_congr_left exists_comm

theorem blames_of_mem_findings {patches : List Patch}
    {composite composed : Option Schema}
    (h : f ∈ t.findings index patches composite composed) :
    f.Blames (Template.path index) := by
  rcases mem_findings_iff.mp h with ⟨j, p, -, hf⟩ | ⟨_, -, hf⟩ | hf
  · exact (blames_of_mem_patchFindings hf).trans ⟨_, rfl⟩
  · exact (blames_of_mem_checkConnectionDetails hf).trans (Path.le_child _ _)
  · exact (blames_of_mem_checkReadiness hf).trans (Path.le_child _ _)

end Template

/-! ## Types and rendering -/

theorem Composition.path_of_mem_compositeFindings {c : Composition} {mode : Mode}
    {schemas : SchemaLookup} {f : Finding}
    (h : f ∈ c.compositeFindings mode schemas) :
    f.path = [.field "spec", .field "compositeTypeRef"] := by
  unfold compositeFindings at h
  split at h
  · rw [List.mem_singleton] at h
    exact h ▸ rfl
  · cases h

namespace Template

variable {t : Template} {index : Nat} {f : Finding}

/-- The findings of types point at the template or at its base. -/
theorem path_of_mem_typeFindings {mode : Mode} {schemas : SchemaLookup}
    (h : f ∈ t.typeFindings index mode schemas) :
    f.path = Template.path index ∨
      f.path = (Template.path index).child "base" := by
  rw [typeFindings] at h
  split at h
  · rw [List.mem_singleton] at h
    exact .inr (h ▸ rfl)
  · split at h
    · rw [List.mem_singleton] at h
      exact .inl (h ▸ rfl)
    · cases h

/-- Whatever the renderer does, its template's base is to blame. -/
theorem path_of_mem_renderFindings
    {render : Template → Except RenderError Json} {composed : Schema}
    (h : f ∈ t.renderFindings index render composed) :
    f.path = (Template.path index).child "base" := by
  rw [renderFindings] at h
  split at h
  · rw [List.mem_singleton] at h
    exact h ▸ rfl
  · obtain ⟨fault, -, rfl⟩ := List.mem_map.mp h
    rfl

end Template

/-! ## Structure -/

namespace Rule

variable {c : Composition} {f : Finding}

theorem of_mem_allOrNoneNamed (h : f ∈ allOrNoneNamed c) :
    f.path = resourcesPath ∧ f.kind ≠ .internal := by
  rw [allOrNoneNamed] at h
  split at h
  · rw [List.mem_singleton] at h
    subst h
    exact ⟨rfl, nofun⟩
  · cases h

theorem blames_of_mem_distinctNames (h : f ∈ distinctNames c) :
    ∃ i, f.Blames ((Template.path i).child "name") := by
  obtain ⟨⟨i, name⟩, -, rfl⟩ := List.mem_map.mp h
  exact ⟨i, blames_duplicate (List.prefix_refl _) _ _⟩

theorem blames_of_mem_namedForFunctions (h : f ∈ namedForFunctions c) :
    ∃ i, f.Blames ((Template.path i).child "name") := by
  rw [namedForFunctions] at h
  split at h
  · cases h
  · obtain ⟨⟨name, i⟩, -, hf⟩ := List.mem_filterMap.mp h
    cases name with
    | none =>
        cases hf
        exact ⟨i, blames_invalid (List.prefix_refl _) _ _⟩
    | some _ => cases hf

theorem blames_of_functionFinding {path : Path} {g : Function}
    (h : functionFinding path g = some f) : f.Blames path := by
  rw [functionFinding] at h
  split at h
  · cases h
    exact blames_invalid (Path.le_child _ _) _ _
  · split at h
    · cases h
      exact blames_required (Path.le_child _ _) _
    · cases h

theorem blames_of_mem_completeFunctions (h : f ∈ completeFunctions c) :
    f.Blames [.field "spec", .field "functions"] := by
  obtain ⟨⟨g, i⟩, -, hf⟩ := List.mem_filterMap.mp h
  exact (blames_of_functionFinding hf).trans ⟨_, rfl⟩

theorem blames_of_setPatchFinding {path : Path} {p : Patch}
    (h : setPatchFinding path p = some f) : f.Blames path := by
  rw [setPatchFinding] at h
  split at h
  · cases h
    exact blames_invalid (Path.le_child _ _) _ _
  · split at h
    · cases h
    · next e _ =>
        cases h
        exact e.blames path

theorem blames_of_mem_patchesFindings {path : Path} {set : PatchSet}
    (h : f ∈ patchesFindings path set) : f.Blames path := by
  obtain ⟨⟨p, i⟩, -, hf⟩ := List.mem_filterMap.mp h
  exact (blames_of_setPatchFinding hf).trans
    ((Path.le_child _ _).trans (Path.le_item _ i))

theorem blames_of_mem_soundPatchSets (h : f ∈ soundPatchSets c) :
    f.Blames [.field "spec", .field "patchSets"] := by
  obtain ⟨⟨set, i⟩, -, hf⟩ := List.mem_flatMap.mp h
  suffices hset : f.Blames [.field "spec", .field "patchSets", .index i] from
    hset.trans ⟨_, rfl⟩
  rcases List.mem_append.mp hf with hf | hf
  · split at hf
    · rw [List.mem_singleton] at hf
      exact hf ▸ blames_duplicate (Path.le_child _ _) _ _
    · cases hf
  · exact blames_of_mem_patchesFindings hf

theorem mem_apply_standard_iff :
    f ∈ apply standard c ↔
      f ∈ allOrNoneNamed c ∨ f ∈ distinctNames c ∨ f ∈ namedForFunctions c ∨
        f ∈ completeFunctions c ∨ f ∈ soundPatchSets c := by
  simp only [apply, standard, List.flatMap_cons, List.flatMap_nil,
    List.mem_append, List.append_nil]

/-- The rules blame the document, but no patch of a template. -/
theorem not_patch_of_mem_apply (h : f ∈ apply standard c) :
    f.kind ≠ .internal ∧ ∀ i j, ¬ Patch.path i j <+: f.path := by
  have hname : ∀ {k}, f.Blames ((Template.path k).child "name") →
      f.kind ≠ .internal ∧ ∀ i j, ¬ Patch.path i j <+: f.path := fun hf =>
    ⟨hf.external, fun _ _ => (Patch.path_apart_child (by decide)).not_le hf.below⟩
  rcases mem_apply_standard_iff.mp h with h | h | h | h | h
  · obtain ⟨hpath, hkind⟩ := of_mem_allOrNoneNamed h
    refine ⟨hkind, fun i j => ?_⟩
    rw [hpath]
    simp [Patch.path, resourcesPath]
  · obtain ⟨i, hf⟩ := blames_of_mem_distinctNames h
    exact hname hf
  · obtain ⟨i, hf⟩ := blames_of_mem_namedForFunctions h
    exact hname hf
  · have hf := blames_of_mem_completeFunctions h
    refine ⟨hf.external, fun i j => Path.Apart.not_le ?_ hf.below⟩
    simp [Path.Apart, Patch.path]
  · have hf := blames_of_mem_soundPatchSets h
    refine ⟨hf.external, fun i j => Path.Apart.not_le ?_ hf.below⟩
    simp [Path.Apart, Patch.path]

end Rule

/-! ## References -/

theorem PatchSet.blames_unknownFinding (patch : Path) (name : String) :
    (unknownFinding patch name).Blames patch :=
  blames_invalid (Path.le_child _ _) _ _

/-- The finding of a reference to an unknown set points at the patch that is the
reference. -/
theorem Template.of_unknownSetFinding {t : Template} {sets : List PatchSet}
    {index : Nat} {f : Finding} (h : t.unknownSetFinding sets index = some f) :
    ∃ j p name, t.patches[j]? = some p ∧ p.unknownSet? sets = some name ∧
      f = PatchSet.unknownFinding (Patch.path index j) name := by
  obtain ⟨⟨p, j⟩, hmem, hf⟩ := List.exists_of_findSome?_eq_some h
  obtain ⟨name, hname, rfl⟩ := Option.map_eq_some_iff.mp hf
  exact ⟨j, p, name, List.mk_mem_zipIdx_iff_getElem?.mp hmem, hname, rfl⟩

end ComposeLint
