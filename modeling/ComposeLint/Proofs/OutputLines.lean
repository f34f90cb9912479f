import ComposeLint.CommandLine.Run
import ComposeLint.Proofs.FindingSites
import ComposeLint.Proofs.LintPhases
import ComposeLint.Proofs.MessageTexts

/-!
# Findings line by line

A run prints the line of every finding and ends it with a line break, so there are as many
lines as findings if no line holds a line break itself. The rules quote every text that
they tell of a composition, and so do most other checks. The texts that stand as they are
in the detail of some finding are told by `Composition.Shows`: one constructor for each
place of a composition that such a text can come from.

Every check is walked through once, to see that it weaves its details from these texts
alone (`Linter.weaves_of_mem_lint`). The payoff is `Linter.lint_lines`, and the name of a
field that is not found shows that lines can break (`Linter.not_lines_of_lint`).
-/

namespace ComposeLint

open Text

variable {P : String → Prop} {path : Path} {f : Finding}

/-! ## Details and readiness -/

theorem ConnectionDetail.weaves_of_check {d : ConnectionDetail} {composed : Schema}
    (hd : ∀ text name, d.fromFieldPath = some text → Path.Mentions text name → P name)
    (hpath : path.NamesPlain) (h : d.check path composed = some f) : f.Weaves P := by
  rw [check] at h
  split at h
  · cases h
  · next field hfield =>
      split at h
      · cases h
      · next e he =>
          cases h
          exact ⟨hpath.child .literal,
            (Schema.woven_of_resolveText he).mono fun name => hd field name hfield⟩

namespace ReadinessCheck

variable {c : ReadinessCheck} {composed : Option Schema} {fault : ReadinessFault}

theorem weaves_of_fieldFault {expected : Option JsonType}
    (hc : ∀ text name, c.fieldPath = some text → Path.Mentions text name → P name)
    (hpath : path.NamesPlain) (h : c.fieldFault expected composed = some fault) :
    (fault.finding path).Weaves P := by
  have hchild : (path.child "fieldPath").NamesPlain := hpath.child .literal
  have hname : Plain c.type.name.toList := by cases c.type <;> exact .literal
  rw [fieldFault] at h
  split at h
  · cases h
    exact ⟨hchild, .concat .literal (.plain hname)⟩
  · next field hfield =>
      have hfieldPath := (Option.filter_eq_some_iff.mp hfield).1
      split at h
      · cases h
      · split at h
        · next e he =>
            cases h
            exact ⟨hchild,
              (Schema.woven_of_resolveText he).mono fun name => hc field name hfieldPath⟩
        · split at h
          · next expected _ _ =>
              split at h <;> cases h
              exact ⟨hchild, .concat .literal (.plain expected.plain_name)⟩
          · cases h

theorem weaves_of_conditionFault {condition : Option ConditionMatch} (hpath : path.NamesPlain)
    (h : conditionFault condition = some fault) : (fault.finding path).Weaves P := by
  have hchild : (path.child "matchCondition").NamesPlain := hpath.child .literal
  unfold conditionFault at h
  split at h
  · cases h
    exact ⟨hchild, .literal⟩
  · split at h
    · cases h
      exact ⟨hchild.child .literal, .literal⟩
    · split at h <;> cases h
      exact ⟨hchild.child .literal, .literal⟩

theorem weaves_of_fault
    (hc : ∀ text name, c.fieldPath = some text → Path.Mentions text name → P name)
    (hpath : path.NamesPlain) (h : c.fault composed = some fault) :
    (fault.finding path).Weaves P := by
  rw [ReadinessCheck.fault] at h
  split at h
  · cases h
  · exact weaves_of_conditionFault hpath h
  · exact weaves_of_fieldFault hc hpath h
  · split at h
    · cases h
      exact ⟨hpath.child .literal, .literal⟩
    · exact weaves_of_fieldFault hc hpath h
  · split at h
    · cases h
      exact ⟨hpath.child .literal, .literal⟩
    · exact weaves_of_fieldFault hc hpath h

end ReadinessCheck

namespace Template

/-- The text spells a path that a template follows, its patches being these. -/
inductive Follows (t : Template) (patches : List Patch) (text : String) : Prop where
  | patch {p : Patch} (hp : p ∈ patches) (h : p.Follows text)
  | detail {d : ConnectionDetail} (hd : d ∈ t.connectionDetails)
      (h : d.fromFieldPath = some text)
  | readiness {check : ReadinessCheck} (hcheck : check ∈ t.readinessChecks)
      (h : check.fieldPath = some text)

variable {t : Template} {index : Nat}

theorem namesPlain_path : (Template.path index).NamesPlain :=
  .field .literal (.field .literal (.index .nil))

theorem weaves_of_mem_findings {patches : List Patch} {composite composed : Option Schema}
    (hpatches : ∀ p ∈ patches, ∀ text, p.Follows text → P text)
    (hnames : ∀ text name, t.Follows patches text → Path.Mentions text name → P name)
    (h : f ∈ t.findings index patches composite composed) : f.Weaves P := by
  have hchild : ∀ {name : String} {i : Nat}, Plain name.toList →
      (((Template.path index).child name).item i).NamesPlain :=
    fun hname => (namesPlain_path.child hname).item
  rcases mem_findings_iff.mp h with ⟨j, p, hp, hf⟩ | ⟨schema, -, hf⟩ | hf
  · have hpath : (Patch.path index j).NamesPlain := hchild .literal
    have hmem := List.mem_of_getElem? hp
    refine weaves_of_mem_patchFindings (fun text htext => ?_) hpath hf
    exact ⟨hpatches p hmem text htext, fun name => hnames text name (.patch hmem htext)⟩
  · obtain ⟨⟨d, i⟩, hd, hf⟩ := List.mem_filterMap.mp hf
    refine ConnectionDetail.weaves_of_check (fun text name htext => ?_) (hchild .literal) hf
    exact hnames text name (.detail (List.fst_mem_of_mem_zipIdx hd) htext)
  · obtain ⟨⟨check, i⟩, hcheck, hf⟩ := List.mem_filterMap.mp hf
    obtain ⟨fault, hfault, rfl⟩ := Option.map_eq_some_iff.mp hf
    refine ReadinessCheck.weaves_of_fault (fun text name htext => ?_) (hchild .literal) hfault
    exact hnames text name (.readiness (List.fst_mem_of_mem_zipIdx hcheck) htext)

end Template

/-! ## Types and rendering -/

/-- A text that a composition holds and that findings show as it is. -/
inductive Composition.Shows (c : Composition) (schemas : SchemaLookup) : String → Prop where
  /-- The annotation that asks for a mode. -/
  | mode {value : String}
      (h : Keyed.get? Mode.annotation (c.metadata.annotations.getD []) = some value) :
      Shows c schemas value
  | compositeVersion : Shows c schemas c.spec.compositeType.apiVersion
  | compositeKind : Shows c schemas c.spec.compositeType.kind
  | baseVersion {t : Template} {key : TypeKey} (ht : t ∈ c.spec.resources)
      (h : t.base.typeKey = .ok key) : Shows c schemas key.apiVersion
  | baseKind {t : Template} {key : TypeKey} (ht : t ∈ c.spec.resources)
      (h : t.base.typeKey = .ok key) : Shows c schemas key.kind
  /-- A path that a patch reads or writes. -/
  | path {t : Template} {p : Patch} {text : String} (ht : t ∈ c.spec.resources)
      (hp : p ∈ t.effectivePatches c.spec.patchSets) (h : p.Follows text) :
      Shows c schemas text
  /-- A name on a path. -/
  | name {t : Template} {text name : String} (ht : t ∈ c.spec.resources)
      (h : t.Follows (t.effectivePatches c.spec.patchSets) text)
      (hname : Path.Mentions text name) : Shows c schemas name
  /-- A member of a base that should not be there, or one that should be. -/
  | member {t : Template} {composed : Schema} {fault : ShapeFault} {name : String}
      (ht : t ∈ c.spec.resources) (hschema : t.schema? schemas = some composed)
      (hfault : fault ∈ t.base.faults composed) (hname : .field name ∈ fault.path) :
      Shows c schemas name

theorem TypeReference.woven_render {r : TypeReference} (hversion : P r.apiVersion)
    (hkind : P r.kind) : Woven P r.render.toList :=
  .concat (.concat (.text hversion) .literal) (.text hkind)

theorem Json.plain_of_typeKey {v : Json} {e : BaseError} (h : v.typeKey = .error e) :
    Plain e.message.toList := by
  have hmissing : ∀ {name : String}, Plain name.toList →
      Plain (BaseError.missingField name).message.toList :=
    fun hname => .concat (.concat .literal hname) .literal
  unfold typeKey at h
  split at h
  · split at h
    · cases h
      exact hmissing .literal
    · split at h <;> cases h
      exact hmissing .literal
  · cases h
    exact .literal

theorem ShapeFault.woven_render (fault : ShapeFault) :
    Woven (fun name => .field name ∈ fault.path) fault.render.toList := by
  refine .concat (.concat ?_ .literal) (.plain ?_)
  · split
    · exact .literal
    · exact fault.path.woven_render
  · cases fault.cause with
    | mismatch expected actual =>
        exact .concat (.concat (.concat .literal expected.plain_name) .literal)
          actual.plain_name
    | missing => exact .literal
    | undeclared => exact .literal

section Passes

variable {c : Composition} {schemas : SchemaLookup} {t : Template} {index : Nat} {mode : Mode}

theorem Composition.weaves_of_mem_compositeFindings
    (h : f ∈ c.compositeFindings mode schemas) : f.Weaves (c.Shows schemas) := by
  unfold compositeFindings at h
  split at h
  · obtain rfl := List.mem_singleton.mp h
    exact ⟨.field .literal (.field .literal .nil),
      .concat .literal (TypeReference.woven_render .compositeVersion .compositeKind)⟩
  · cases h

theorem Template.weaves_of_mem_typeFindings (ht : t ∈ c.spec.resources)
    (h : f ∈ t.typeFindings index mode schemas) : f.Weaves (c.Shows schemas) := by
  rw [typeFindings] at h
  split at h
  · next e he =>
      obtain rfl := List.mem_singleton.mp h
      exact ⟨namesPlain_path.child .literal, .plain (Json.plain_of_typeKey he)⟩
  · next key hkey =>
      split at h
      · obtain rfl := List.mem_singleton.mp h
        exact ⟨namesPlain_path, .concat .literal
          (TypeReference.woven_render (.baseVersion ht hkey) (.baseKind ht hkey))⟩
      · cases h

/-- A renderer of the base has no texts of its own. -/
theorem Template.weaves_of_mem_renderFindings {composite : Json} {composed : Schema}
    (ht : t ∈ c.spec.resources) (hschema : t.schema? schemas = some composed)
    (h : f ∈ t.renderFindings index (Renderer.base composite) composed) :
    f.Weaves (c.Shows schemas) := by
  have hpath : ((Template.path index).child "base").NamesPlain := namesPlain_path.child .literal
  rw [renderFindings, Renderer.base] at h
  by_cases hobject : t.base.isObject = true
  · rw [if_pos hobject] at h
    obtain ⟨fault, hfault, rfl⟩ := List.mem_map.mp h
    exact ⟨hpath, fault.woven_render.mono fun name hname => .member ht hschema hfault hname⟩
  · rw [if_neg hobject] at h
    obtain rfl := List.mem_singleton.mp h
    exact ⟨hpath, .concat .literal .literal⟩

theorem Composition.weaves_of_mem_schemaFindings {renders : Bool}
    (h : f ∈ c.schemaFindings mode (Linter.standard renders none).renderer schemas) :
    f.Weaves (c.Shows schemas) := by
  rcases mem_schemaFindings_iff.mp h with hf | hf | hf
  · rcases mem_typeFindings_iff.mp hf with hf | ⟨i, t, ht, hf⟩
    · exact weaves_of_mem_compositeFindings hf
    · exact Template.weaves_of_mem_typeFindings (List.mem_of_getElem? ht) hf
  · obtain ⟨i, t, ht, hf⟩ := mem_templateFindings_iff.mp hf
    have hmem := List.mem_of_getElem? ht
    exact Template.weaves_of_mem_findings (fun p hp text htext => .path hmem hp htext)
      (fun text name htext hname => .name hmem htext hname) hf
  · obtain ⟨render, composite, composed, i, t, hrender, ht, hschema, hf⟩ :=
      mem_renderFindings hf
    obtain rfl : Renderer.base = render := by
      rw [Linter.standard, Option.ite_none_right_eq_some] at hrender
      exact Option.some.inj hrender.2
    exact Template.weaves_of_mem_renderFindings (List.mem_of_getElem? ht) hschema hf

end Passes

/-! ## Structure -/

namespace Rule

variable {c : Composition}

theorem weaves_of_functionFinding {g : Function} (hpath : path.NamesPlain)
    (h : functionFinding path g = some f) : f.Weaves P := by
  rw [functionFinding] at h
  split at h
  · cases h
    exact ⟨hpath.child .literal, .concat .literal (.plain (plain_quoted g.type))⟩
  · split at h <;> cases h
    exact ⟨hpath.child .literal, .literal⟩

theorem weaves_of_setPatchFinding {p : Patch} (hpath : path.NamesPlain)
    (h : setPatchFinding path p = some f) : f.Weaves P := by
  rw [setPatchFinding] at h
  split at h
  · cases h
    exact ⟨hpath.child .literal, .literal⟩
  · split at h
    · cases h
    · next e _ =>
        cases h
        exact e.weaves hpath

theorem weaves_of_mem_soundPatchSets (h : f ∈ soundPatchSets c) : f.Weaves P := by
  obtain ⟨⟨set, i⟩, -, hf⟩ := List.mem_flatMap.mp h
  have hpath : Path.NamesPlain [.field "spec", .field "patchSets", .index i] :=
    .field .literal (.field .literal (.index .nil))
  rcases List.mem_append.mp hf with hf | hf
  · split at hf
    · obtain rfl := List.mem_singleton.mp hf
      exact ⟨hpath.child .literal, .literal⟩
    · cases hf
  · obtain ⟨⟨p, j⟩, -, hf⟩ := List.mem_filterMap.mp hf
    exact weaves_of_setPatchFinding (hpath.child .literal).item hf

/-- The rules quote what they tell of a composition. -/
theorem weaves_of_mem_apply (h : f ∈ apply standard c) : f.Weaves P := by
  have hresources : resourcesPath.NamesPlain := .field .literal (.field .literal .nil)
  have hname : ∀ i, ((resourcesPath.item i).child "name").NamesPlain :=
    fun i => hresources.item.child .literal
  rcases mem_apply_standard_iff.mp h with h | h | h | h | h
  · rw [allOrNoneNamed] at h
    split at h
    · obtain rfl := List.mem_singleton.mp h
      exact ⟨hresources, .concat .literal .literal⟩
    · cases h
  · obtain ⟨⟨i, name⟩, -, rfl⟩ := List.mem_map.mp h
    exact ⟨hname i, .literal⟩
  · rw [namedForFunctions] at h
    split at h
    · cases h
    · obtain ⟨⟨name, i⟩, -, hf⟩ := List.mem_filterMap.mp h
      cases name with
      | none =>
          cases hf
          exact ⟨hname i, .concat .literal .literal⟩
      | some _ => cases hf
  · obtain ⟨⟨g, i⟩, -, hf⟩ := List.mem_filterMap.mp h
    refine weaves_of_functionFinding ?_ hf
    exact .field .literal (.field .literal (.index .nil))
  · exact weaves_of_mem_soundPatchSets h

end Rule

theorem Composition.weaves_of_mem_unknownSetFindings {c : Composition}
    (h : f ∈ c.unknownSetFindings) : f.Weaves P := by
  obtain ⟨i, t, -, hf⟩ := mem_unknownSetFindings_iff.mp h
  obtain ⟨j, p, name, -, -, rfl⟩ := Template.of_unknownSetFinding hf
  have hpath : (Patch.path i j).NamesPlain := (Template.namesPlain_path.child .literal).item
  exact ⟨hpath.child .literal, .concat .literal (.plain (plain_quoted name))⟩

theorem ModeError.weaves_of_ofComposition {c : Composition} {e : ModeError}
    {schemas : SchemaLookup} (h : Mode.ofComposition c = .error e) :
    e.finding.Weaves (c.Shows schemas) := by
  rw [Mode.ofComposition, Mode.ofAnnotations] at h
  split at h
  · cases h
  · next value hvalue =>
      split at h <;> cases h
      refine ⟨?_, .concat .literal (.text (.mode ?_))⟩
      · exact .field .literal (.field .literal (.field .literal .nil))
      · exact (Option.filter_eq_some_iff.mp hvalue).1

namespace Linter

variable {renders : Bool} {mode : Option Mode} {c : Composition} {schemas : SchemaLookup}

/-- All that a run finds is plain but for texts of the composition that are shown. -/
theorem weaves_of_mem_lint (h : f ∈ (standard renders mode).lint c schemas) :
    f.Weaves (c.Shows schemas) := by
  rcases mem_lint h with ⟨e, he, rfl⟩ | hf | ⟨mode', -, -, hf⟩
  · cases mode with
    | none => exact ModeError.weaves_of_ofComposition he
    | some _ => cases he
  · rcases mem_structureFindings hf with hf | hf
    · exact Rule.weaves_of_mem_apply hf
    · exact Composition.weaves_of_mem_unknownSetFindings hf
  · exact Composition.weaves_of_mem_schemaFindings hf

end Linter

/-! ## Lines -/

namespace CommandLine

/-- What lines look like when they are printed. -/
def printed (lines : List String) : List Char :=
  lines.flatMap fun line => line.toList ++ ['\n']

theorem count_printed_cons (line : String) (rest : List String) :
    (printed (line :: rest)).count '\n' =
      line.toList.count '\n' + 1 + (printed rest).count '\n' := by
  rw [printed, List.flatMap_cons, ← printed, List.count_append, List.count_append,
    List.count_singleton_self]

theorem length_le_count_printed (lines : List String) :
    lines.length ≤ (printed lines).count '\n' := by
  induction lines with
  | nil => exact Nat.le_refl 0
  | cons line rest ih =>
      rw [count_printed_cons, List.length_cons]
      omega

/-- As many line breaks are printed as there are lines, if no line holds one. -/
theorem count_printed_eq_length_iff {lines : List String} :
    (printed lines).count '\n' = lines.length ↔ ∀ line ∈ lines, '\n' ∉ line.toList := by
  induction lines with
  | nil => exact iff_of_true rfl nofun
  | cons line rest ih =>
      have hrest := length_le_count_printed rest
      rw [count_printed_cons, List.length_cons, List.forall_mem_cons, ← ih,
        ← List.count_eq_zero]
      omega

/-- A run prints the findings, one after the other. -/
theorem Options.output_run (o : Options) (files : Files) :
    (o.run files).output =
      match o.lint files with
      | .ok (_, findings) => findings.map Finding.render
      | .error _ => [] := by
  rw [run]
  split
  · next h => rw [h]
  · next h =>
      rw [h]
      rfl
  · next h => rw [h]

end CommandLine

namespace Linter

open CommandLine

/-- A control character in the line of a finding comes from a text of the composition that
the finding shows as it is. So findings are printed one on each line, unless such a text
holds a line break. -/
theorem lint_lines (renders : Bool) (mode : Option Mode) (c : Composition)
    (schemas : SchemaLookup) :
    (∀ f ∈ (standard renders mode).lint c schemas, ∀ ch, IsControl ch →
      (ch ∈ f.render.toList ↔
        ∃ text, c.Shows schemas text ∧ text.toList <:+: f.detail.toList ∧
          ch ∈ text.toList)) ∧
    ((printed (((standard renders mode).lint c schemas).map Finding.render)).count '\n' =
        ((standard renders mode).lint c schemas).length ↔
      ∀ f ∈ (standard renders mode).lint c schemas, ∀ text, c.Shows schemas text →
        text.toList <:+: f.detail.toList → '\n' ∉ text.toList) ∧
    ∀ (o : Options) (files : Files),
      (o.run files).output =
        match o.lint files with
        | .ok (_, findings) => findings.map Finding.render
        | .error _ => [] := by
  have hline : ∀ f ∈ (standard renders mode).lint c schemas, ∀ ch, IsControl ch →
      (ch ∈ f.render.toList ↔
        ∃ text, c.Shows schemas text ∧ text.toList <:+: f.detail.toList ∧
          ch ∈ text.toList) :=
    fun f hf ch hcontrol => (weaves_of_mem_lint hf).mem_render_iff_exists hcontrol
  refine ⟨hline, ?_, Options.output_run⟩
  rw [← List.length_map Finding.render, count_printed_eq_length_iff, List.forall_mem_map]
  refine forall₂_congr fun f hf => ?_
  rw [hline f hf '\n' (by decide)]
  simp only [not_exists, not_and]

end Linter

/-- One template, which passes on a field of its resource. -/
def Composition.passing (field : String) : Composition where
  metadata := ⟨some "buckets", none, none, none, none, none, none⟩
  spec :=
    { compositeType := ⟨"example.org/v1", "XBucket"⟩
      patchSets := []
      resources :=
        [{ name := none
           base := .obj [("apiVersion", .str "example.org/v1"), ("kind", .str "Bucket")]
           patches := []
           connectionDetails := [⟨none, none, none, some field, none⟩]
           readinessChecks := [] }]
      functions := []
      secretsNamespace := none }

namespace Linter

open CommandLine

/-- The field is not found, and its name is told with the line break in it. -/
theorem lint_passing :
    ∃ f, (standard false none).lint (.passing "size\nlimit") (fun _ => some (.object {})) = [f] ∧
      '\n' ∈ f.render.toList := by
  have hlint : (standard false none).lint (.passing "size\nlimit")
      (fun _ => some (.object {})) =
      [.invalid [.field "spec", .field "resources", .index 0, .field "connectionDetails",
          .index 0, .field "fromFieldPath"] "size\nlimit"
        ("unable to find field: " ++ "size\nlimit")] := rfl
  refine ⟨_, hlint, ?_⟩
  rw [(weaves_of_mem_lint (hlint ▸ List.mem_singleton_self _)).mem_render_iff (by decide)]
  exact String.toList_append ▸ List.mem_append_right _ (by decide)

theorem lint_lines_passing :
    ∃ f ∈ (standard false none).lint (.passing "size\nlimit") (fun _ => some (.object {})),
      IsControl '\n' ∧ '\n' ∈ f.render.toList ∧
        ∃ text, (Composition.passing "size\nlimit").Shows (fun _ => some (.object {})) text ∧
          text.toList <:+: f.detail.toList ∧ '\n' ∈ text.toList := by
  obtain ⟨f, hlint, hbreak⟩ := lint_passing
  have hf := hlint ▸ List.mem_singleton_self f
  have hcontrol : IsControl '\n' := by decide
  exact ⟨f, hf, hcontrol, hbreak, ((lint_lines _ _ _ _).1 f hf '\n' hcontrol).mp hbreak⟩

/-- Findings need not be lines. -/
theorem not_lines_of_lint :
    ¬ ∀ (renders : Bool) (mode : Option Mode) (c : Composition) (schemas : SchemaLookup),
        (∀ f ∈ (standard renders mode).lint c schemas, '\n' ∉ f.render.toList) ∧
        (printed (((standard renders mode).lint c schemas).map Finding.render)).count '\n' =
          ((standard renders mode).lint c schemas).length := by
  intro h
  obtain ⟨hline, -⟩ := h false none (.passing "size\nlimit") fun _ => some (.object {})
  obtain ⟨f, hlint, hbreak⟩ := lint_passing
  exact hline f (hlint ▸ List.mem_singleton_self f) hbreak

end Linter

end ComposeLint
