import ComposeLint.Proofs.SchemaWalk

/-!
# Mandatory fields

The resolver calls a field mandatory if every segment of its path was so, and keeps
one flag for that along the walk. What the flag comes to is said here without a walk
(`resolve_required_iff`): the path names declared properties from the root on, and
each of them is required by the object that declares it. A name that is only listed
as required does not count, nor does an item or an additional member, and nothing in
the metadata is mandatory.

A value of the schema has its mandatory fields. That is the other walk, the one of
the shape check, which reports required names that are missing, and it holds as far
as the objects on the way are declared to be objects.
-/

namespace ComposeLint

namespace Schema

/-- Every segment of the path is a declared property that the object it stands in
requires. -/
inductive Mandates : Schema → Path → Prop where
  | nil (s : Schema) : Mandates s []
  | field {shape : ObjectShape Schema} {name : String} {s : Schema} {rest : Path}
      (hdeclared : Keyed.get? name shape.properties = some s)
      (hrequired : name ∈ shape.required) (hrest : Mandates s rest) :
      Mandates (object shape) (.field name :: rest)

/-- The flag that a walk returns is still set if it was set, and the path is
mandatory. -/
theorem exists_walk_required_iff {path : Path} : ∀ {s : Schema} {required : Bool},
    (∃ type, s.walk required path = .ok ⟨type, true⟩) ↔
      required = true ∧ s.Mandates path := by
  induction path with
  | nil =>
      intro s required
      simp only [walk, Except.ok.injEq, Resolution.mk.injEq, exists_and_right,
        exists_eq', true_and, Mandates.nil, and_true]
  | cons segment rest ih =>
      intro s required
      constructor
      · rintro ⟨type, h⟩
        obtain ⟨s', mandatory, hstep, hrest⟩ := walk_cons_eq_ok h (by simp)
        obtain ⟨hboth, hmandates⟩ := ih.mp ⟨type, hrest⟩
        obtain ⟨rfl, rfl⟩ := Bool.and_eq_true_iff.mp hboth
        obtain ⟨shape, name, rfl, rfl, hdeclared, hrequired⟩ :=
          step_eq_into_true_iff.mp hstep
        exact ⟨rfl, .field hdeclared hrequired hmandates⟩
      · rintro ⟨rfl, hmandates⟩
        cases hmandates with
        | @field shape name s' _ hdeclared hrequired hrest =>
            have hstep : (object shape).step (.field name) = .ok (.into s' true) :=
              step_eq_into_true_iff.mpr ⟨shape, name, rfl, rfl, hdeclared, hrequired⟩
            rw [walk, hstep]
            exact ih.mpr ⟨rfl, hrest⟩

/-- A field is mandatory if its path is not empty, does not begin with the metadata, and
names properties that are declared and required. A value without faults has a value
there, if all objects on the way are declared to be objects. -/
theorem resolve_required_iff (s : Schema) (p : Path) :
    ((∃ type, s.resolve p = .ok ⟨type, true⟩) ↔
        p ≠ [] ∧ p.head? ≠ some (.field "metadata") ∧ s.Mandates p) ∧
      (s.Mandates p → s.typedAlong p = true →
        ∀ v : Json, v.faults s = [] → ∃ x, v.at? p = some x) := by
  constructor
  · by_cases hne : p = []
    · subst hne
      exact iff_of_false nofun fun h => h.1 rfl
    · by_cases hmetadata : p.head? = some (.field "metadata")
      · refine iff_of_false ?_ fun h => h.2.1 hmetadata
        rintro ⟨type, h⟩
        obtain ⟨rest, rfl⟩ := List.head?_eq_some_iff.mp hmetadata
        cases required_of_walk_metadata h
      · rw [resolve_eq_walk hne hmetadata, exists_walk_required_iff]
        simp only [hne, hmetadata, ne_eq, not_false_eq_true, true_and]
  · intro hmandates htyped v hv
    obtain ⟨type, hwalk⟩ := exists_walk_required_iff.mpr ⟨rfl, hmandates⟩
    exact Json.exists_at?_of_walk_required hv hwalk rfl htyped

/-- The size of a workload is mandatory. -/
theorem resolve_required_iff_size :
    (∃ type, workload.resolve [.field "spec", .field "size"] = .ok ⟨type, true⟩) ∧
      workload.Mandates [.field "spec", .field "size"] ∧
      workload.typedAlong [.field "spec", .field "size"] = true ∧
      Json.workload.faults workload = [] ∧
      ∃ x, Json.workload.at? [.field "spec", .field "size"] = some x := by
  obtain ⟨hiff, hthere⟩ := resolve_required_iff workload [.field "spec", .field "size"]
  have hresolve :
      ∃ type, workload.resolve [.field "spec", .field "size"] = .ok ⟨type, true⟩ := ⟨_, rfl⟩
  obtain ⟨-, -, hmandates⟩ := hiff.mp hresolve
  exact ⟨hresolve, hmandates, rfl, rfl, hthere hmandates rfl Json.workload rfl⟩

end Schema

end ComposeLint
