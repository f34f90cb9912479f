import ComposeLint.Proofs.FindingSites
import ComposeLint.Proofs.Splicing

/-!
# Which patch a finding is about

Findings of patches point at a template and at a position among its patches, and
two lists of patches can be meant: the ones that the template declares, and the
ones that are left when sets are spliced in. A reference to a set that does not
exist is found before anything is spliced, at its declared position. All else that
is wrong with a patch is found after splicing, at the position that the patch has
then.

The two positions are the same as long as every set that is referred to before the
patch holds exactly one patch. A set of two moves all that follow it by one, also
past the end of what was declared (`lint_labelled_blank`).
-/

namespace ComposeLint

namespace Template

variable {t : Template} {sets : List PatchSet} {composite composed : Option Schema}
  {index j : Nat} {f : Finding}

/-- What a finding at position `j` among the patches of a template is about. -/
inductive PatchCause (t : Template) (sets : List PatchSet)
    (composite composed : Option Schema) (index j : Nat) (f : Finding) : Prop where
  /-- The patch that is declared there refers to a set that does not exist. -/
  | unknownSet {p : Patch} {name : String} (declared : t.patches[j]? = some p)
      (unknown : p.unknownSet? sets = some name)
      (finding : f = PatchSet.unknownFinding (Patch.path index j) name)
  /-- Of what the patch that is declared at `k` stands for, the patch at `m`. It stands
  after all that the patches before `k` stand for. -/
  | spliced {declaredPatch p : Patch} {k m : Nat}
      (declared : t.patches[k]? = some declaredPatch)
      (member : (declaredPatch.splice sets)[m]? = some p)
      (finding : f ∈ patchFindings p (Patch.path index j) composite composed)
      (position : j = ((t.patches.take k).flatMap (Patch.splice sets)).length + m)

/-- The finding is about the patch that is declared at `j`, or about a patch of the set
that it refers to. -/
def CausedAt (t : Template) (sets : List PatchSet) (composite composed : Option Schema)
    (index j : Nat) (f : Finding) : Prop :=
  ∃ p, t.patches[j]? = some p ∧
    ((∃ name, p.unknownSet? sets = some name ∧
        f = PatchSet.unknownFinding (Patch.path index j) name) ∨
      ∃ p' ∈ p.splice sets, f ∈ patchFindings p' (Patch.path index j) composite composed)

/-- Where every patch stands for one, splicing moves none. -/
theorem PatchCause.causedAt (h : t.PatchCause sets composite composed index j f)
    (hone : ∀ p ∈ t.patches, (p.splice sets).length = 1) :
    t.CausedAt sets composite composed index j f := by
  cases h with
  | @unknownSet p name declared unknown finding =>
      exact ⟨p, declared, .inl ⟨name, unknown, finding⟩⟩
  | @spliced declaredPatch p k m declared member finding position =>
      -- The patches before `k` stand for `k` patches, and the one at `k` for one.
      have hk : k < t.patches.length := (List.getElem?_eq_some_iff.mp declared).1
      have htake : ((t.patches.take k).flatMap (Patch.splice sets)).length = k := by
        rw [length_flatMap_of_length_eq_one fun p hp => hone p (List.mem_of_mem_take hp),
          List.length_take_of_le (Nat.le_of_lt hk)]
      have hm : m < (declaredPatch.splice sets).length :=
        (List.getElem?_eq_some_iff.mp member).1
      rw [hone declaredPatch (List.mem_of_getElem? declared)] at hm
      obtain rfl : j = k := by omega
      exact ⟨declaredPatch, declared, .inr ⟨p, List.mem_of_getElem? member, finding⟩⟩

/-- A finding at a patch, from among what a template says, is about the patch that
splicing has put there. -/
theorem patchCause_of_mem_findings {i : Nat}
    (hf : f ∈ t.findings i (t.effectivePatches sets) composite composed)
    (hle : Patch.path index j <+: f.path) :
    i = index ∧ t.PatchCause sets composite composed index j f := by
  rcases mem_findings_iff.mp hf with ⟨j', p, hp, hf⟩ | ⟨schema, -, hf⟩ | hf
  · obtain ⟨rfl, rfl⟩ :=
      Patch.path_inj_of_le hle (blames_of_mem_patchFindings hf).below
    obtain ⟨k, declaredPatch, m, declared, member, position⟩ :=
      exists_of_getElem?_flatMap hp
    exact ⟨rfl, .spliced declared member hf position⟩
  · have hsite := (blames_of_mem_checkConnectionDetails hf).below
    exact absurd hle ((Patch.path_apart_child (by decide)).not_le hsite)
  · have hsite := (blames_of_mem_checkReadiness hf).below
    exact absurd hle ((Patch.path_apart_child (by decide)).not_le hsite)

theorem not_patch_of_mem_typeFindings {i : Nat} {mode : Mode} {schemas : SchemaLookup}
    (hf : f ∈ t.typeFindings i mode schemas) : ¬ Patch.path index j <+: f.path := by
  rcases path_of_mem_typeFindings hf with hpath | hpath
  · rw [hpath]
    simp [Patch.path, Template.path]
  · rw [hpath]
    exact (Patch.path_apart_child (by decide)).1

end Template

namespace Composition

variable {c : Composition} {schemas : SchemaLookup} {i j : Nat} {f : Finding}

theorem patchCause_of_mem_unknownSetFindings (hf : f ∈ c.unknownSetFindings)
    (hle : Patch.path i j <+: f.path) (schemas : SchemaLookup) :
    ∃ t, c.spec.resources[i]? = some t ∧
      t.PatchCause c.spec.patchSets (c.schema? schemas) (t.schema? schemas) i j f := by
  obtain ⟨i', t, ht, hf⟩ := mem_unknownSetFindings_iff.mp hf
  obtain ⟨j', p, name, declared, unknown, rfl⟩ := Template.of_unknownSetFinding hf
  obtain ⟨rfl, rfl⟩ := Patch.path_inj_of_le hle (PatchSet.blames_unknownFinding _ _).below
  exact ⟨t, ht, .unknownSet declared unknown rfl⟩

theorem patchCause_of_mem_schemaFindings {mode : Mode} {renderer : Option Renderer}
    (hf : f ∈ c.schemaFindings mode renderer schemas)
    (hle : Patch.path i j <+: f.path) :
    ∃ t, c.spec.resources[i]? = some t ∧
      t.PatchCause c.spec.patchSets (c.schema? schemas) (t.schema? schemas) i j f := by
  rcases mem_schemaFindings_iff.mp hf with hf | hf | hf
  · rcases mem_typeFindings_iff.mp hf with hf | ⟨i', t, -, hf⟩
    · rw [path_of_mem_compositeFindings hf] at hle
      simp [Patch.path] at hle
    · exact absurd hle (Template.not_patch_of_mem_typeFindings hf)
  · obtain ⟨i', t, ht, hf⟩ := mem_templateFindings_iff.mp hf
    obtain ⟨rfl, hcause⟩ := Template.patchCause_of_mem_findings hf hle
    exact ⟨t, ht, hcause⟩
  · obtain ⟨render, composite, composed, i', t, -, -, -, hf⟩ := mem_renderFindings hf
    rw [Template.path_of_mem_renderFindings hf] at hle
    exact absurd hle (Patch.path_apart_child (by decide)).1

end Composition

namespace Linter

/-- A finding that points at a patch of a template is about a patch of that template.
The position is that of the spliced list, and so of the declared one where every set
that the template refers to holds exactly one patch. -/
theorem patchCause_of_mem_lint {renders : Bool} {mode : Option Mode} {c : Composition}
    {schemas : SchemaLookup} {f : Finding} {i j : Nat}
    (hf : f ∈ (standard renders mode).lint c schemas)
    (hle : Patch.path i j <+: f.path) :
    ∃ t, c.spec.resources[i]? = some t ∧
      t.PatchCause c.spec.patchSets (c.schema? schemas) (t.schema? schemas) i j f ∧
      ((∀ p ∈ t.patches, (p.splice c.spec.patchSets).length = 1) →
        t.CausedAt c.spec.patchSets (c.schema? schemas) (t.schema? schemas) i j f) := by
  suffices h : ∃ t, c.spec.resources[i]? = some t ∧
      t.PatchCause c.spec.patchSets (c.schema? schemas) (t.schema? schemas) i j f by
    obtain ⟨t, ht, hcause⟩ := h
    exact ⟨t, ht, hcause, hcause.causedAt⟩
  rcases mem_lint hf with ⟨e, -, rfl⟩ | hf | ⟨mode', -, -, hf⟩
  · simp [Patch.path, ModeError.finding, Finding.invalid] at hle
  · rcases mem_structureFindings hf with hf | hf
    · exact absurd hle ((Rule.not_patch_of_mem_apply hf).2 i j)
    · exact Composition.patchCause_of_mem_unknownSetFindings hf hle schemas
  · exact Composition.patchCause_of_mem_schemaFindings hf hle

/-- The second of two patches lacks its source, and each of the two stands for itself. -/
theorem patchCause_of_mem_lint_labelled :
    let c := Composition.labelled [.copying "spec.size", .blank]
    let schemas : SchemaLookup := fun _ => none
    let f := (PatchError.missingSource .fromCompositeFieldPath).finding (Patch.path 0 1)
    f ∈ (standard false (some .loose)).lint c schemas ∧
      Patch.path 0 1 <+: f.path ∧
      (∀ t ∈ c.spec.resources, ∀ p ∈ t.patches,
        (p.splice c.spec.patchSets).length = 1) ∧
      ∃ t, c.spec.resources[0]? = some t ∧
        t.PatchCause c.spec.patchSets (c.schema? schemas) (t.schema? schemas) 0 1 f ∧
        t.CausedAt c.spec.patchSets (c.schema? schemas) (t.schema? schemas) 0 1 f := by
  intro c schemas f
  have hlint : (standard false (some .loose)).lint c schemas = [f] := rfl
  have hf : f ∈ (standard false (some .loose)).lint c schemas := by
    rw [hlint]
    exact List.mem_singleton_self f
  have hle : Patch.path 0 1 <+: f.path := ⟨[.field "fromFieldPath"], rfl⟩
  have hone : ∀ t ∈ c.spec.resources, ∀ p ∈ t.patches,
      (p.splice c.spec.patchSets).length = 1 := by decide
  obtain ⟨t, ht, hcause, hcaused⟩ := patchCause_of_mem_lint hf hle
  exact ⟨hf, hle, hone, t, ht, hcause, hcaused (hone t (List.mem_of_getElem? ht))⟩

/-- The missing source of the second of two declared patches, after a set of two. -/
theorem lint_labelled_blank :
    (standard false (some .loose)).lint
        (.labelled [.referring "labels", .blank]) (fun _ => none) =
      [(PatchError.missingSource .fromCompositeFieldPath).finding (Patch.path 0 2)] :=
  rfl

/-- The position of a finding need not be that of a declared patch. -/
theorem not_causedAt_of_mem_lint :
    ¬ ∀ (renders : Bool) (mode : Option Mode) (c : Composition)
        (schemas : SchemaLookup) (f : Finding) (i j : Nat),
        f ∈ (standard renders mode).lint c schemas → Patch.path i j <+: f.path →
        ∃ t, c.spec.resources[i]? = some t ∧ j < t.patches.length ∧
          t.CausedAt c.spec.patchSets (c.schema? schemas) (t.schema? schemas) i j f := by
  intro h
  have hlint := lint_labelled_blank
  obtain ⟨t, ht, hlt, -⟩ := h false (some .loose)
    (.labelled [.referring "labels", .blank]) (fun _ => none) _ 0 2
    (hlint ▸ List.mem_singleton_self _) ⟨[.field "fromFieldPath"], rfl⟩
  cases ht
  exact absurd hlt (by decide)

end Linter

end ComposeLint
