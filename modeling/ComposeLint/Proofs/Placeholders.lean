import ComposeLint.Composition.Render
import ComposeLint.Proofs.Conformance
import ComposeLint.Proofs.ConvertedSchemas

/-!
# The stub of a composite resource

Templates are rendered for a stub of the composite resource: all that its schema requires,
filled with placeholders, and the members that every object has. `Composition.faults_stub`
says that the shape check finds nothing wrong with the stub, for schemas that can be
filled: what an object requires it also declares, as far as required properties lead.

The placeholder of a node is a value of its type, and that of an object holds exactly the
required properties, so below the root everything goes by induction over the schema. The
root is where the two sides could fall out. The stub has members there that the schema
need not declare, and writes them over those that it does declare; the first the shape
check lets pass, the second is why the schema may not declare them.
-/

namespace ComposeLint

namespace Schema

/-- Declared properties that are required lead from the schema to the node. -/
inductive Demands : Schema → Path → Schema → Prop where
  | root (s : Schema) : Demands s [] s
  | property {shape : ObjectShape Schema} {name : String} {t node : Schema} {path : Path}
      (hdeclared : Keyed.get? name shape.properties = some t)
      (hrequired : name ∈ shape.required) (hrest : Demands t path node) :
      Demands (object shape) (.field name :: path) node

/-- All that is required of the values of the schema is declared. -/
def DeclaresRequired (s : Schema) : Prop :=
  ∀ path shape, s.Demands path (object shape) → ∀ name ∈ shape.required,
    Keyed.contains name shape.properties = true

/-- All that is required of the values of the schema is declared, apart from the members
that every object has. Those are not declared. -/
structure Fillable (s : Schema) : Prop where
  declared : ∀ path shape, s.Demands path (object shape) → ∀ name ∈ shape.required,
    Keyed.contains name shape.properties = true ∨
      path = [] ∧ name ∈ ObjectShape.implicitRootMembers
  bare : ∀ name ∈ ObjectShape.implicitRootMembers, s.declares name = false

variable {s t : Schema} {shape : ObjectShape Schema} {name : String}

/-! ## Placeholders -/

/-- The members of the placeholder of an object. -/
def placeholderMembers (shape : ObjectShape Schema) : List (String × Json) :=
  shape.required.filterMap fun name =>
    (Keyed.get? name shape.properties).map fun t => (name, t.placeholder)

theorem get?_placeholders (properties : List (String × Schema)) :
    Keyed.get? name (placeholders properties) =
      (Keyed.get? name properties).map placeholder := by
  induction properties with
  | nil => rfl
  | cons p rest ih =>
      rw [placeholders, Keyed.get?_cons, Keyed.get?_cons, ih]
      split <;> rfl

theorem placeholder_object : (object shape).placeholder = .obj (placeholderMembers shape) := by
  obtain ⟨properties, required, _, _, _⟩ := shape
  simp only [placeholder, placeholderMembers, get?_placeholders, Option.map_map]
  rfl

theorem mem_placeholderMembers_iff {value : Json} :
    (name, value) ∈ placeholderMembers shape ↔ name ∈ shape.required ∧
      ∃ t, Keyed.get? name shape.properties = some t ∧ value = t.placeholder := by
  simp only [placeholderMembers, List.mem_filterMap, Option.map_eq_some_iff, Prod.mk.injEq]
  constructor
  · rintro ⟨_, hrequired, t, hdeclared, rfl, rfl⟩
    exact ⟨hrequired, t, hdeclared, rfl⟩
  · rintro ⟨hrequired, t, hdeclared, rfl⟩
    exact ⟨name, hrequired, t, hdeclared, rfl, rfl⟩

theorem contains_placeholderMembers (hrequired : name ∈ shape.required)
    (hdeclared : Keyed.contains name shape.properties = true) :
    Keyed.contains name (placeholderMembers shape) = true := by
  obtain ⟨t, ht⟩ := Option.isSome_iff_exists.mp hdeclared
  exact Keyed.contains_of_mem (mem_placeholderMembers_iff.mpr ⟨hrequired, t, ht, rfl⟩)

theorem conforms_placeholder_of_ne_object {root : Bool} (hs : s.Converted)
    (hne : ∀ shape, s ≠ object shape) : Conforms root s s.placeholder := by
  cases s with
  | object shape => exact absurd rfl (hne shape)
  | array items =>
      rw [placeholder]
      refine .array fun index value schema hvalue _ => ?_
      cases hvalue
  | scalar type =>
      have htype := hs.scalar_type_ne
      refine .scalar ?_
      cases type with
      | object => exact absurd rfl htype.1
      | array => exact absurd rfl htype.2
      | boolean | integer | null | number | string => rw [placeholder]; rfl
  | unknown => exact .unknown root _

theorem DeclaresRequired.of_property (h : (object shape).DeclaresRequired)
    (hdeclared : Keyed.get? name shape.properties = some t) (hrequired : name ∈ shape.required) :
    t.DeclaresRequired := by
  intro path shape' hnode
  exact h _ shape' (.property hdeclared hrequired hnode)

theorem sizeOf_lt_of_mem_properties (h : (name, t) ∈ shape.properties) :
    sizeOf t < sizeOf (object shape) := by
  have hmem := List.sizeOf_lt_of_mem h
  have hshape : sizeOf shape.properties < sizeOf shape := by
    obtain ⟨properties, required, additional, preservesUnknown, typed⟩ := shape
    simp only [ObjectShape.mk.sizeOf_spec]
    omega
  simp only [Prod.mk.sizeOf_spec] at hmem
  simp only [object.sizeOf_spec]
  omega

/-- Induction over a schema, through the properties of its objects. -/
theorem induction_properties {motive : Schema → Prop}
    (h : ∀ s, (∀ shape name t, s = object shape → (name, t) ∈ shape.properties → motive t) →
      motive s) (s : Schema) : motive s :=
  h s fun shape _ t hs ht =>
    have : sizeOf t < sizeOf s := hs ▸ sizeOf_lt_of_mem_properties ht
    induction_properties h t
termination_by sizeOf s

/-- A placeholder conforms to its schema. -/
theorem conforms_placeholder (hs : s.Converted) (h : s.DeclaresRequired) :
    ∀ root, Conforms root s s.placeholder := by
  induction s using induction_properties with
  | h s ih =>
      intro root
      cases s with
      | object shape =>
          rw [placeholder_object]
          refine .object ?_ ?_
          · intro name hrequired
            exact contains_placeholderMembers hrequired (h [] shape (.root _) name hrequired)
          · intro name value hmember
            obtain ⟨hrequired, t, hdeclared, rfl⟩ := mem_placeholderMembers_iff.mp hmember
            have hmem := Keyed.mem_of_get?_eq_some hdeclared
            have hvalue := ih shape name t rfl hmem (hs.of_property hmem)
              (h.of_property hdeclared hrequired) false
            exact .declared hdeclared hvalue
      | array _ | scalar _ | unknown => exact conforms_placeholder_of_ne_object hs nofun

end Schema

/-! ## The stub -/

namespace Composition

open Schema

variable {shape : ObjectShape Schema}

/-- The members that the stub has by itself. -/
def stubMembers (c : Composition) : List (String × Json) :=
  [("apiVersion", .str c.spec.compositeType.apiVersion),
    ("kind", .str c.spec.compositeType.kind),
    ("metadata", .obj [("name", .str "validation-composite")])]

theorem stub_object (c : Composition) :
    c.stub (.object shape) = .obj (Keyed.extend (placeholderMembers shape) c.stubMembers) := by
  rw [stub, placeholder_object]
  rfl

theorem stub_of_ne_object (c : Composition) {s : Schema} (h : ∀ shape, s ≠ .object shape) :
    c.stub s = s.placeholder := by
  cases s with
  | object shape => exact absurd rfl (h shape)
  | array items => rw [stub, placeholder]
  | scalar type => cases type <;> rw [stub, placeholder]
  | unknown => rw [stub, placeholder]

theorem mem_keys_stubMembers_iff (c : Composition) {name : String} :
    name ∈ Keyed.keys c.stubMembers ↔ name ∈ ObjectShape.implicitRootMembers := Iff.rfl

theorem contains_stubMembers_iff (c : Composition) {name : String} :
    Keyed.contains name c.stubMembers.reverse = true ↔
      name ∈ ObjectShape.implicitRootMembers := by
  rw [Keyed.contains_iff, Keyed.keys, List.map_reverse, List.mem_reverse]
  exact c.mem_keys_stubMembers_iff

theorem conforms_stub_object (c : Composition) (hs : (object shape).Converted)
    (h : (object shape).Fillable) :
    Conforms true (object shape) (c.stub (object shape)) := by
  rw [stub_object]
  refine .object ?_ ?_
  · intro name hrequired
    rw [Keyed.contains_extend, Bool.or_eq_true, contains_stubMembers_iff]
    rcases h.declared [] shape (.root _) name hrequired with hdeclared | ⟨-, himplicit⟩
    · exact .inr (contains_placeholderMembers hrequired hdeclared)
    · exact .inl himplicit
  · intro name value hmember
    rcases Keyed.mem_extend hmember with hown | hmember
    · have himplicit : name ∈ ObjectShape.implicitRootMembers :=
        c.mem_keys_stubMembers_iff.mp (List.mem_map_of_mem hown)
      have hbare := h.bare name himplicit
      rw [declares, Keyed.contains, Option.isSome_eq_false_iff, Option.isNone_iff_eq_none] at hbare
      exact .implicit hbare himplicit
    · obtain ⟨hrequired, t, hdeclared, rfl⟩ := mem_placeholderMembers_iff.mp hmember
      -- Below the root no name is exempt, and the placeholder is that of any node.
      have hbelow : t.DeclaresRequired := by
        intro path shape' hnode name' hrequired'
        have hpart := h.declared _ shape' (.property hdeclared hrequired hnode) name' hrequired'
        exact hpart.resolve_right fun hroot => absurd hroot.1 (List.cons_ne_nil _ _)
      have hconverted := hs.of_property (Keyed.mem_of_get?_eq_some hdeclared)
      exact .declared hdeclared (conforms_placeholder hconverted hbelow false)

/-- The shape check finds nothing wrong with the stub of a composite resource, if the
schema of the resource was converted and can be filled. -/
theorem faults_stub (c : Composition) {d : Declaration} {s : Schema}
    (hs : d.toSchema = .ok s) (h : s.Fillable) : (c.stub s).faults s = [] := by
  have hconverted : s.Converted := ⟨d, hs⟩
  refine (Json.faultsAt_eq_nil_iff_conforms _).mpr ?_
  cases s with
  | object shape => exact c.conforms_stub_object hconverted h
  | array _ | scalar _ | unknown =>
      rw [c.stub_of_ne_object (by simp)]
      exact conforms_placeholder_of_ne_object hconverted nofun

end Composition

/-! ## A schema that can be filled -/

/-- A bucket must have settings, and those a size; it may have tags. -/
def Declaration.bucket : Declaration :=
  { type := some "object"
    properties := some
      [("spec",
        { properties := some
            [("size", { type := some "integer" }),
              ("tags", { type := some "array", items := .each { type := some "string" } })]
          required := ["size"] })]
    required := ["spec", "metadata"] }

def ObjectShape.bucketSettings : ObjectShape Schema :=
  { properties := [("size", .scalar .integer), ("tags", .array (.each (.scalar .string)))]
    required := ["size"] }

def Schema.bucket : Schema :=
  .object
    { properties := [("spec", .object .bucketSettings)]
      required := ["metadata", "spec"]
      typed := true }

def Composition.ofBuckets : Composition :=
  { metadata := ⟨none, none, none, none, none, none, none⟩
    spec :=
      { compositeType := ⟨"example.org/v1", "Bucket"⟩
        patchSets := []
        resources := []
        functions := []
        secretsNamespace := none } }

theorem Schema.fillable_bucket : bucket.Fillable where
  declared := by
    intro path shape hnode name hrequired
    cases hnode with
    | root =>
        rcases List.mem_pair.mp hrequired with rfl | rfl
        · exact .inr ⟨rfl, by decide⟩
        · exact .inl rfl
    | property hdeclared hspec hrest =>
        rcases List.mem_pair.mp hspec with rfl | rfl
        · cases hdeclared
        · cases hdeclared
          cases hrest with
          | root =>
              obtain rfl := List.mem_singleton.mp hrequired
              exact .inl rfl
          | property hdeclared hsize hrest =>
              obtain rfl := List.mem_singleton.mp hsize
              cases hdeclared
              cases hrest
  bare := by decide

theorem Composition.faults_stub_bucket :
    Declaration.bucket.toSchema = .ok Schema.bucket ∧ Schema.bucket.Fillable ∧
      (Composition.ofBuckets.stub Schema.bucket).at? [.field "spec", .field "size"] =
        some (.int 1) ∧
      (Composition.ofBuckets.stub Schema.bucket).faults Schema.bucket = [] := by
  have hs : Declaration.bucket.toSchema = .ok Schema.bucket := rfl
  have h : Schema.bucket.Fillable := Schema.fillable_bucket
  exact ⟨hs, h, rfl, Composition.ofBuckets.faults_stub hs h⟩

end ComposeLint
