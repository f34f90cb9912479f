import ComposeLint.Composition.References
import ComposeLint.Proofs.CatalogEntries
import ComposeLint.Proofs.Splicing

/-!
# Only the types that a composition refers to

A composition is checked against the schemas of the types that it refers to, and no
others are looked up. So the definitions of other types need not be converted
(`lint_catalog`).

What is fetched is chosen by group and kind, and what is looked up is a group, a
version and a kind. Both sides agree because all entries of a definition have its
group and its kind: a definition is left out as a whole or not at all, and of the
entries with one key either all are there or none, in the same order.
-/

namespace ComposeLint

/-! ## What is looked up -/

/-- Two ways to find schemas are the same for all types that the composition refers
to. -/
def Composition.AgreeOnReferences (c : Composition) (schemas other : SchemaLookup) : Prop :=
  ∀ key ∈ c.references, schemas key = other key

namespace Template

variable {t : Template} {schemas other : SchemaLookup}

theorem schema?_congr (h : ∀ key, t.base.typeKey = .ok key → schemas key = other key) :
    t.schema? schemas = t.schema? other := by
  rw [schema?, schema?]
  cases hkey : t.base.typeKey with
  | error _ => rfl
  | ok key => exact h key hkey

theorem typeFindings_congr {index : Nat} {mode : Mode}
    (h : ∀ key, t.base.typeKey = .ok key → schemas key = other key) :
    t.typeFindings index mode schemas = t.typeFindings index mode other := by
  rw [typeFindings, typeFindings]
  cases hkey : t.base.typeKey with
  | error _ => rfl
  | ok key => simp only [h key hkey]

end Template

namespace Composition

variable {c : Composition} {schemas other : SchemaLookup} {mode : Mode}

theorem key_mem_references {t : Template} (ht : t ∈ c.spec.resources) {key : TypeKey}
    (h : t.base.typeKey = .ok key) : key ∈ c.references := by
  refine List.mem_cons_of_mem _ (List.mem_filterMap.mpr ⟨t, ht, ?_⟩)
  rw [h]
  rfl

namespace AgreeOnReferences

theorem composite (h : c.AgreeOnReferences schemas other) :
    c.schema? schemas = c.schema? other :=
  h _ List.mem_cons_self

theorem template (h : c.AgreeOnReferences schemas other) {t : Template}
    (ht : t ∈ c.spec.resources) :
    ∀ key, t.base.typeKey = .ok key → schemas key = other key :=
  fun _ hkey => h _ (key_mem_references ht hkey)

end AgreeOnReferences

theorem typeFindings_congr (h : c.AgreeOnReferences schemas other) :
    c.typeFindings mode schemas = c.typeFindings mode other := by
  have hcomposite : c.compositeFindings mode schemas = c.compositeFindings mode other := by
    unfold compositeFindings
    rw [h.composite]
  rw [typeFindings, typeFindings, hcomposite]
  congr 1
  exact List.flatMap_congr fun v hv =>
    Template.typeFindings_congr (h.template (List.fst_mem_of_mem_zipIdx hv))

theorem templateFindings_congr (h : c.AgreeOnReferences schemas other) :
    c.templateFindings schemas = c.templateFindings other := by
  rw [templateFindings, templateFindings, h.composite]
  refine List.flatMap_congr fun v hv => ?_
  dsimp only
  rw [Template.schema?_congr (h.template (List.fst_mem_of_mem_zipIdx hv))]

theorem renderFindings_congr {renderer : Option Renderer}
    (h : c.AgreeOnReferences schemas other) :
    c.renderFindings renderer schemas = c.renderFindings renderer other := by
  have hrendering : c.rendering? renderer schemas = c.rendering? renderer other := by
    rw [rendering?, rendering?, h.composite]
  rw [renderFindings_eq, renderFindings_eq, hrendering]
  cases c.rendering? renderer other with
  | none => rfl
  | some render =>
      refine List.flatMap_congr fun v hv => ?_
      dsimp only
      rw [Template.schema?_congr (h.template (List.fst_mem_of_mem_zipIdx hv))]

end Composition

/-- A run looks nothing up but the types that the composition refers to. -/
theorem Linter.lint_congr {c : Composition} {schemas other : SchemaLookup}
    (h : c.AgreeOnReferences schemas other) (l : Linter) :
    l.lint c schemas = l.lint c other := by
  have hsame : ∀ mode, c.schemaFindings mode l.renderer schemas =
      c.schemaFindings mode l.renderer other := fun mode => by
    rw [Composition.schemaFindings, Composition.schemaFindings,
      Composition.typeFindings_congr h, Composition.templateFindings_congr h,
      Composition.renderFindings_congr h]
  simp only [lint, hsame]

/-! ## What is fetched -/

namespace Composition

variable {c : Composition} {definitions : List TypeDefinition}

/-- The composition refers to a type of the same group and kind. -/
def refersToKindOf (c : Composition) (key : TypeKey) : Bool :=
  c.references.any fun reference => reference.group = key.group && reference.kind = key.kind

theorem refersToKindOf_of_mem {key : TypeKey} (h : key ∈ c.references) :
    c.refersToKindOf key = true :=
  List.any_eq_true.mpr ⟨key, h, by simp⟩

/-- A definition is left out with all of its entries, or with none. -/
theorem filter_converted (d : TypeDefinition) :
    d.converted.filter (c.refersToKindOf ·.1) = if c.refersTo d then d.converted else [] := by
  have hkey : ∀ entry ∈ d.converted, c.refersToKindOf entry.1 = c.refersTo d := by
    intro entry hentry
    obtain ⟨hgroup, hkind⟩ := TypeDefinition.key_of_mem_converted hentry
    rw [refersToKindOf, refersTo, hgroup, hkind]
  rw [List.filter_congr hkey]
  cases c.refersTo d <;> simp

theorem flatMap_filter_refersTo :
    (definitions.filter c.refersTo).flatMap (·.converted) =
      (definitions.flatMap (·.converted)).filter (c.refersToKindOf ·.1) := by
  rw [List.filter_flatMap]
  simp only [filter_converted]
  -- Left are the lists of the definitions that stay, with empty ones between.
  induction definitions with
  | nil => rfl
  | cons d rest ih =>
      rw [List.flatMap_cons, ← ih]
      by_cases h : c.refersTo d = true
      · rw [List.filter_cons_of_pos h, List.flatMap_cons, if_pos h]
      · rw [List.filter_cons_of_neg h, if_neg h, List.nil_append]

/-- The definitions that a composition refers to give a catalog if all do, and it holds
the same schemas of the types that the composition refers to. -/
theorem catalog_eq_ok {full : Catalog} (h : Catalog.ofDefinitions definitions = .ok full) :
    ∃ needed, c.catalog definitions = .ok needed ∧
      c.AgreeOnReferences needed.lookup full.lookup := by
  obtain ⟨hall, rfl⟩ := Catalog.ofDefinitions_eq_ok_iff.mp h
  refine ⟨_, Catalog.ofDefinitions_eq_ok_iff.mpr
    ⟨fun d hd => hall d (List.mem_of_mem_filter hd), rfl⟩, fun key hkey => ?_⟩
  rw [Catalog.lookup_ofList, Catalog.lookup_ofList, flatMap_filter_refersTo,
    ← List.filter_reverse, Keyed.get?_filter (refersToKindOf_of_mem hkey)]

end Composition

namespace Linter

/-- Definitions of types that a composition does not refer to are not missed: without
them the catalog is built as well, and every check finds the same. -/
theorem lint_catalog {definitions : List TypeDefinition} {full : Catalog}
    (h : Catalog.ofDefinitions definitions = .ok full) (c : Composition) :
    ∃ needed, c.catalog definitions = .ok needed ∧
      ∀ l : Linter, l.lint c needed.lookup = l.lint c full.lookup := by
  obtain ⟨needed, hneeded, hagree⟩ := Composition.catalog_eq_ok (c := c) h
  exact ⟨needed, hneeded, lint_congr hagree⟩

end Linter

/-! ## Buckets and queues -/

/-- A definition of objects, of one version. -/
def TypeDefinition.ofObjects (kind : String) : TypeDefinition where
  name := kind
  group := "example.org"
  kind := kind
  versions := [⟨"v1", true, some { type := some "object" }⟩]

/-- The entry that it makes. -/
def Catalog.objectsEntry (kind : String) : TypeKey × Schema :=
  (⟨"example.org", "v1", kind⟩, .object { typed := true })

/-- A composition of buckets alone is checked without what defines queues. -/
theorem Linter.lint_catalog_ofObjects :
    Catalog.ofDefinitions [.ofObjects "Bucket", .ofObjects "Queue"] =
        .ok [Catalog.objectsEntry "Bucket", Catalog.objectsEntry "Queue"] ∧
      (Composition.labelled [.blank]).catalog [.ofObjects "Bucket", .ofObjects "Queue"] =
        .ok [Catalog.objectsEntry "Bucket"] ∧
      ∀ l : Linter,
        l.lint (.labelled [.blank]) (Catalog.lookup [Catalog.objectsEntry "Bucket"]) =
          l.lint (.labelled [.blank])
            (Catalog.lookup [Catalog.objectsEntry "Bucket", Catalog.objectsEntry "Queue"]) := by
  have hfull : Catalog.ofDefinitions [.ofObjects "Bucket", .ofObjects "Queue"] =
      .ok [Catalog.objectsEntry "Bucket", Catalog.objectsEntry "Queue"] := rfl
  have hneeded :
      (Composition.labelled [.blank]).catalog [.ofObjects "Bucket", .ofObjects "Queue"] =
        .ok [Catalog.objectsEntry "Bucket"] := rfl
  obtain ⟨needed, hcatalog, hlint⟩ := lint_catalog hfull (.labelled [.blank])
  obtain rfl := Except.ok.inj (hneeded.symm.trans hcatalog)
  exact ⟨hfull, hneeded, hlint⟩

end ComposeLint
