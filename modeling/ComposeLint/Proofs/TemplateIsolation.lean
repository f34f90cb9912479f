import ComposeLint.Proofs.FindingSites
import ComposeLint.Proofs.Positions
import ComposeLint.Proofs.Splicing

/-!
# Templates are checked on their own

Two compositions that differ in one template have the same findings, in the same order,
apart from those that stand at that template or below it (`lint_outside`). So what one
template says can neither hide nor shift what is found in the others.

The findings of a template come from three passes over all templates: their types, what
they say, and what is rendered of them. In each of them the part of a template depends
on the template, its index, and what the two compositions share, and each pass puts all
that it finds in a template below the path of that template. Structural rules do compare
templates with one another, and so both compositions must be well-structured.
-/

namespace ComposeLint

/-! ## Findings elsewhere -/

namespace Finding

/-- The findings that stand neither at a path nor below it. -/
def outside (path : Path) (fs : List Finding) : List Finding :=
  fs.filter fun f => ¬ path <+: f.path

variable {path : Path}

theorem outside_append (fs gs : List Finding) :
    outside path (fs ++ gs) = outside path fs ++ outside path gs :=
  List.filter_append fs gs

theorem outside_flatMap {α : Type} (l : List α) (g : α → List Finding) :
    outside path (l.flatMap g) = l.flatMap fun x => outside path (g x) :=
  List.filter_flatMap

theorem outside_eq_nil {fs : List Finding} (h : ∀ f ∈ fs, path <+: f.path) :
    outside path fs = [] :=
  List.filter_eq_nil_iff.mpr fun f hf => by simpa using h f hf

end Finding

open Finding

namespace Template

variable {t : Template} {index : Nat} {f : Finding}

theorem le_of_mem_typeFindings {mode : Mode} {schemas : SchemaLookup}
    (h : f ∈ t.typeFindings index mode schemas) : Template.path index <+: f.path := by
  rcases path_of_mem_typeFindings h with hpath | hpath
  · exact hpath ▸ List.prefix_refl _
  · exact hpath ▸ Path.le_child _ _

theorem le_of_mem_renderFindings {render : Template → Except RenderError Json}
    {composed : Option Schema}
    (h : f ∈ composed.elim [] (t.renderFindings index render)) :
    Template.path index <+: f.path := by
  cases composed with
  | none => cases h
  | some composed => exact path_of_mem_renderFindings h ▸ Path.le_child _ _

end Template

/-! ## One template apart -/

namespace Composition

/-- Two compositions have as many templates, and are the same but for the template at
one index. -/
structure SameBut (k : Nat) (c c' : Composition) : Prop where
  metadata : c.metadata = c'.metadata
  compositeType : c.spec.compositeType = c'.spec.compositeType
  patchSets : c.spec.patchSets = c'.spec.patchSets
  functions : c.spec.functions = c'.spec.functions
  secretsNamespace : c.spec.secretsNamespace = c'.spec.secretsNamespace
  length : c.spec.resources.length = c'.spec.resources.length
  templates : ∀ i, i ≠ k → c.spec.resources[i]? = c'.spec.resources[i]?

namespace SameBut

variable {k : Nat} {c c' : Composition} {schemas : SchemaLookup}

theorem schema?_eq (h : c.SameBut k c') : c.schema? schemas = c'.schema? schemas := by
  rw [schema?, schema?, h.compositeType]

theorem modeFor_eq (h : c.SameBut k c') (l : Linter) : l.modeFor c = l.modeFor c' := by
  rw [Linter.modeFor, Linter.modeFor, Mode.ofComposition, Mode.ofComposition, h.metadata]

/-- A pass over the templates that keeps what it finds in the template at `k` below its
path finds the same elsewhere. -/
theorem outside_flatMap (h : c.SameBut k c') {check : Template × Nat → List Finding}
    (hsite : ∀ t, ∀ f ∈ check (t, k), Template.path k <+: f.path) :
    outside (Template.path k) (c.spec.resources.zipIdx.flatMap check) =
      outside (Template.path k) (c'.spec.resources.zipIdx.flatMap check) := by
  rw [Finding.outside_flatMap, Finding.outside_flatMap]
  exact flatMap_zipIdx_congr_of_ne h.length h.templates fun t => outside_eq_nil (hsite t)

theorem outside_typeFindings (h : c.SameBut k c') (mode : Mode) :
    outside (Template.path k) (c.typeFindings mode schemas) =
      outside (Template.path k) (c'.typeFindings mode schemas) := by
  have hcomposite : c.compositeFindings mode schemas = c'.compositeFindings mode schemas := by
    unfold compositeFindings
    rw [h.schema?_eq, h.compositeType]
  rw [typeFindings, typeFindings, outside_append, outside_append, hcomposite,
    h.outside_flatMap fun _ _ => Template.le_of_mem_typeFindings]

theorem outside_templateFindings (h : c.SameBut k c') :
    outside (Template.path k) (c.templateFindings schemas) =
      outside (Template.path k) (c'.templateFindings schemas) := by
  rw [templateFindings, templateFindings, h.schema?_eq, h.patchSets]
  exact h.outside_flatMap fun _ _ hf => (Template.blames_of_mem_findings hf).below

theorem outside_renderFindings (h : c.SameBut k c') (renderer : Option Renderer) :
    outside (Template.path k) (c.renderFindings renderer schemas) =
      outside (Template.path k) (c'.renderFindings renderer schemas) := by
  -- What the renderer is given for a composite depends on the composite type alone.
  have hstub : ∀ composite, c.stub composite = c'.stub composite := fun composite => by
    rw [stub, stub, h.compositeType]
  have hrendering : c.rendering? renderer schemas = c'.rendering? renderer schemas := by
    simp only [rendering?, h.functions, h.schema?_eq, hstub]
  rw [renderFindings_eq, renderFindings_eq, hrendering]
  cases c'.rendering? renderer schemas with
  | none => rfl
  | some render => exact h.outside_flatMap fun _ _ => Template.le_of_mem_renderFindings

theorem outside_schemaFindings (h : c.SameBut k c') (mode : Mode)
    (renderer : Option Renderer) :
    outside (Template.path k) (c.schemaFindings mode renderer schemas) =
      outside (Template.path k) (c'.schemaFindings mode renderer schemas) := by
  simp only [schemaFindings, outside_append, h.outside_typeFindings,
    h.outside_templateFindings, h.outside_renderFindings]

end SameBut

end Composition

namespace Linter

/-- Two well-structured compositions that differ in one template have the same findings
outside of it. -/
theorem lint_outside {k : Nat} {c c' : Composition} (h : c.SameBut k c') (l : Linter)
    (hrules : Rule.apply l.rules c = []) (hrules' : Rule.apply l.rules c' = [])
    (hdeclared : c.ReferencesDeclared) (hdeclared' : c'.ReferencesDeclared)
    (schemas : SchemaLookup) :
    Finding.outside (Template.path k) (l.lint c schemas) =
      Finding.outside (Template.path k) (l.lint c' schemas) := by
  have hpast := structureFindings_eq_nil_iff_declared.mpr ⟨hrules, hdeclared⟩
  have hpast' := structureFindings_eq_nil_iff_declared.mpr ⟨hrules', hdeclared'⟩
  have hmode' := h.modeFor_eq l
  cases hmode : l.modeFor c with
  | error e =>
      rw [hmode] at hmode'
      simp only [lint, hmode, ← hmode']
  | ok mode =>
      rw [lint_of_structured hmode hpast, lint_of_structured (hmode' ▸ hmode) hpast',
        h.outside_schemaFindings]

end Linter

/-! ## Two templates -/

/-- Two templates with the given patches, beside the sets of `Composition.labelled`. -/
def Composition.labelledPair (first second : List Patch) : Composition :=
  let c := Composition.labelled first
  let resources := c.spec.resources ++ (Composition.labelled second).spec.resources
  { c with spec := { c.spec with resources } }

/-- What is wrong with the second template is found whether or not the first lacks a
source: the type without a schema, and the blank patch after a set of two. -/
theorem Linter.lint_outside_labelledPair :
    let l := standard true (some .strict)
    let c := Composition.labelledPair [.blank] [.referring "labels", .blank]
    let c' := Composition.labelledPair [.referring "labels"] [.referring "labels", .blank]
    let schemas : SchemaLookup := fun _ => none
    c.SameBut 0 c' ∧ Rule.apply l.rules c = [] ∧ Rule.apply l.rules c' = [] ∧
      c.ReferencesDeclared ∧ c'.ReferencesDeclared ∧
      (l.lint c schemas).length = 5 ∧ (l.lint c' schemas).length = 4 ∧
      Finding.outside (Template.path 0) (l.lint c schemas) =
        Finding.outside (Template.path 0) (l.lint c' schemas) := by
  intro l c c' schemas
  have h : c.SameBut 0 c' :=
    { metadata := rfl
      compositeType := rfl
      patchSets := rfl
      functions := rfl
      secretsNamespace := rfl
      length := rfl
      templates := fun i hi => by
        cases i with
        | zero => exact absurd rfl hi
        | succ i => rfl }
  have hrules : Rule.apply l.rules c = [] := rfl
  have hrules' : Rule.apply l.rules c' = [] := rfl
  have hdeclared : c.ReferencesDeclared := Composition.unknownSetFindings_eq_nil_iff.mp rfl
  have hdeclared' : c'.ReferencesDeclared := Composition.unknownSetFindings_eq_nil_iff.mp rfl
  exact ⟨h, hrules, hrules', hdeclared, hdeclared', rfl, rfl,
    lint_outside h l hrules hrules' hdeclared hdeclared' schemas⟩

end ComposeLint
