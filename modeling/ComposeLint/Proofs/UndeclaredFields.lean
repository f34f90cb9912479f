import ComposeLint.Proofs.SchemaWalk
import ComposeLint.Schema.Declaration

/-!
# Members that a schema does not declare

A member is undeclared to the shape check where the walk through the schema ends
with a field that is not found: both go by the rule that the object has for the
name, at every node that they pass. The root is no exception to this. What the
shape check lets pass there it never reports, so of a reported path every step
was taken by the rule of the schema (`walk_of_mem_faultsAt`).

The resolver is one. It sends paths that begin with `metadata` through the fixed
schema of metadata, which has a place for every name. The shape check exempts
`metadata` only from being declared, and where a schema does declare it, checks
what it holds like any other member. So a field of the metadata can be
undeclared to the one and known to the other, and `resolve_of_mem_faults` says
that no other field can.
-/

namespace ComposeLint

namespace ObjectShape

/-- The members that every object has are free at the root; otherwise the rule is
that of the schema. -/
theorem rule_eq_of_ruleAt_ne_free (shape : ObjectShape Schema) {path : Path} {name : String}
    (h : shape.ruleAt path name ≠ .free) : shape.rule name = shape.ruleAt path name := by
  rw [ruleAt] at h ⊢
  split at h
  · next hrule => rw [hrule]
  · split at h
    · exact absurd rfl h
    · next himplicit => rw [if_neg himplicit]

end ObjectShape

namespace Schema

/-- An undeclared metadata is free. -/
theorem declares_of_ruleAt_ne_free {shape : ObjectShape Schema} {name : String}
    (hname : name ∈ ObjectShape.implicitRootMembers)
    (h : shape.ruleAt [] name ≠ .free) : (object shape).declares name = true := by
  rw [ObjectShape.ruleAt] at h
  split at h
  · next hrule => exact declares_of_get? (rule_eq_declared_iff.mp hrule)
  · rw [if_pos ⟨rfl, hname⟩] at h
    exact absurd rfl h

/-- The resolver takes the schema of an item that the shape check takes. -/
theorem step_index {items : Items Schema} {index : Nat} {s : Schema}
    (h : items.at? index = some s) :
    (array items).step (.index index) = .ok (.into s false) := by
  cases items with
  | any => cases h
  | each schema => injection h with h; rw [step, h]
  | positional schemas =>
      have hitem : schemas[index]? = some s := h
      rw [step, hitem]

/-! ## Paths through the metadata -/

/-- Where additional members are allowed, those that are not declared are free. -/
theorem rule_of_additional_allowed {shape : ObjectShape Schema}
    (h : shape.additional = .allowed) (name : String) :
    (∃ s, (name, s) ∈ shape.properties ∧ shape.rule name = .declared s) ∨
      shape.rule name = .free := by
  cases hget : Keyed.get? name shape.properties with
  | some s =>
      exact .inl ⟨s, Keyed.mem_of_get?_eq_some hget, rule_eq_declared_iff.mpr hget⟩
  | none =>
      right
      simp only [ObjectShape.rule, hget, h, ite_self]

/-- Below a text there are no fields to look for. -/
theorem walk_text_ne_fieldNotFound (path : Path) (required : Bool) (name : String) :
    (scalar .string).walk required path ≠ .error (.fieldNotFound name) := by
  match path with
  | [] => nofun
  | .field _ :: _ => nofun
  | .index _ :: _ => nofun

theorem walk_textMap_ne_fieldNotFound (path : Path) (required : Bool) (name : String) :
    textMap.walk required path ≠ .error (.fieldNotFound name) := by
  match path with
  | [] => nofun
  | .field _ :: rest => exact walk_text_ne_fieldNotFound rest _ name
  | .index _ :: _ => nofun

/-- The metadata has a place for every name, and so has all that it declares. -/
theorem walk_metadata_ne_fieldNotFound (path : Path) (required : Bool) (name : String) :
    metadata.walk required path ≠ .error (.fieldNotFound name) := by
  obtain ⟨shape, hshape, hadditional, hdeclared⟩ : ∃ shape, metadata = object shape ∧
      shape.additional = .allowed ∧
        ∀ m ∈ shape.properties, m.2 = textMap ∨ m.2 = scalar .string :=
    ⟨_, rfl, rfl, by simp⟩
  rw [hshape]
  match path with
  | [] => nofun
  | .index _ :: _ => nofun
  | .field field :: rest =>
      rw [walk, step]
      rcases rule_of_additional_allowed hadditional field with ⟨s, hs, hrule⟩ | hrule <;>
        rw [hrule]
      · rcases hdeclared _ hs with rfl | rfl
        · exact walk_textMap_ne_fieldNotFound rest _ name
        · exact walk_text_ne_fieldNotFound rest _ name
      · simp

end Schema

namespace Json

/-- An undeclared member is one of the node itself, or one below a step into the
schema. At the root, the step is not to a member that every object has, unless the
schema declares it. -/
theorem exists_step_of_undeclared {v : Json} {s : Schema} {path found : Path}
    (h : ⟨found, .undeclared⟩ ∈ v.faultsAt s path) :
    ∃ segment, (path = [] → ∀ name ∈ ObjectShape.implicitRootMembers,
        segment = .field name → s.declares name = true) ∧
      ((∃ name, segment = .field name ∧ found = path.child name ∧
          s.step segment = .error (.fieldNotFound name)) ∨
        ∃ x s' required, x ∈ v.children ∧ s.step segment = .ok (.into s' required) ∧
          ⟨found, .undeclared⟩ ∈ x.faultsAt s' (path ++ [segment])) := by
  rcases mem_faultsAt_iff_faulty_or.mp h with hfaulty | ⟨x, s', segment, hpart, hfound⟩
  · cases hfaulty with
    | @undeclared _ shape _ name _ _ hforbidden =>
        have hne : shape.ruleAt path name ≠ .free := by simp [hforbidden]
        refine ⟨.field name, ?_, .inl ⟨name, rfl, rfl, ?_⟩⟩
        · rintro rfl _ hname ⟨⟩
          exact Schema.declares_of_ruleAt_ne_free hname hne
        · rw [Schema.step, shape.rule_eq_of_ruleAt_ne_free hne, hforbidden]
  · have hchild := hpart.mem_children
    cases hpart with
    | item hx hs' =>
        exact ⟨_, by simp, .inr ⟨x, s', false, hchild, Schema.step_index hs', hfound⟩⟩
    | @member _ shape _ name _ _ hx hschema =>
        have hne := MemberRule.ne_free_of_schema? hschema
        refine ⟨.field name, ?_, .inr ?_⟩
        · rintro rfl _ hname ⟨⟩
          exact Schema.declares_of_ruleAt_ne_free hname hne
        · rw [Schema.step, shape.rule_eq_of_ruleAt_ne_free hne]
          rcases MemberRule.schema?_eq_some_iff.mp hschema with hrule | hrule <;> rw [hrule]
          · exact ⟨x, s', _, hchild, rfl, hfound⟩
          · exact ⟨x, s', _, hchild, rfl, hfound⟩

/-- Where a member is undeclared, the walk through the schema does not find the
field. -/
theorem walk_of_mem_faultsAt {v : Json} : ∀ {s : Schema} {path found : Path},
    ⟨found, .undeclared⟩ ∈ v.faultsAt s path →
      ∃ rest name, found = path ++ rest ∧ rest.getLast? = some (.field name) ∧
        (path = [] → ∀ member ∈ ObjectShape.implicitRootMembers,
          rest.head? = some (.field member) → s.declares member = true) ∧
        ∀ required, s.walk required rest = .error (.fieldNotFound name) := by
  induction v using induction_children with
  | h v ih =>
      intro s path found h
      obtain ⟨segment, hroot, hhere | hbelow⟩ := exists_step_of_undeclared h
      · obtain ⟨name, rfl, rfl, hstep⟩ := hhere
        refine ⟨[.field name], name, rfl, rfl, ?_, fun required => ?_⟩
        · simpa using hroot
        · rw [Schema.walk, hstep]
      · obtain ⟨x, s', mandatory, hx, hstep, hfound⟩ := hbelow
        obtain ⟨rest, name, rfl, hlast, -, hwalk⟩ := ih x hx hfound
        refine ⟨segment :: rest, name, by simp, ?_, ?_, fun required => ?_⟩
        · rw [List.getLast?_cons, hlast, Option.getD_some]
        · simpa using hroot
        · rw [Schema.walk, hstep]
          exact hwalk _

/-- A member that is reported as undeclared is a field that the resolver does not
find, unless it is one of a metadata that the schema declares. -/
theorem resolve_of_mem_faults {v : Json} {s : Schema} {found : Path}
    (h : ⟨found, .undeclared⟩ ∈ v.faults s) :
    ∃ name, found.getLast? = some (.field name) ∧
      if found.head? = some (.field "metadata") then
        s.declares "metadata" = true ∧
          ∀ field, s.resolve found ≠ .error (.fieldNotFound field)
      else s.resolve found = .error (.fieldNotFound name) := by
  obtain ⟨rest, name, hfound, hlast, hroot, hwalk⟩ := walk_of_mem_faultsAt h
  rw [List.nil_append] at hfound
  subst hfound
  refine ⟨name, hlast, ?_⟩
  split
  · next hmetadata =>
      refine ⟨hroot rfl _ (by simp [ObjectShape.implicitRootMembers]) hmetadata, ?_⟩
      obtain ⟨below, rfl⟩ := List.head?_eq_some_iff.mp hmetadata
      exact Schema.walk_metadata_ne_fieldNotFound below _
  · next hmetadata =>
      rw [Schema.resolve.eq_def]
      split
      · cases hlast
      · next below => exact absurd rfl hmetadata
      · exact hwalk true

/-- A workload whose size is misspelt. -/
def misspelt : Json :=
  .obj [("kind", .str "Workload"), ("spec", .obj [("sise", .int 3), ("size", .int 3)])]

theorem resolve_of_mem_faults_misspelt :
    misspelt.faults .workload = [⟨[.field "spec", .field "sise"], .undeclared⟩] ∧
      Schema.workload.resolve [.field "spec", .field "sise"] =
        .error (.fieldNotFound "sise") := by
  have hfaults :
      misspelt.faults .workload = [⟨[.field "spec", .field "sise"], .undeclared⟩] := rfl
  refine ⟨hfaults, ?_⟩
  obtain ⟨name, hname, hresolve⟩ :=
    resolve_of_mem_faults (v := misspelt) (s := .workload)
      (by rw [hfaults]; exact List.mem_singleton.mpr rfl)
  injection hname with hname
  injection hname with hname
  subst hname
  exact hresolve

/-- A resource definition that says of the metadata only that it is an object. -/
def bareMetadata : Declaration :=
  { type := some "object", properties := some [("metadata", { type := some "object" })] }

/-- Under such a definition the name of an object is undeclared, and yet a text to the
resolver. -/
theorem resolve_of_mem_faults_not_fieldNotFound :
    ¬ ∀ (d : Declaration) (s : Schema) (v : Json) (found : Path), d.toSchema = .ok s →
      ⟨found, .undeclared⟩ ∈ v.faults s →
        ∃ name, found.getLast? = some (.field name) ∧
          s.resolve found = .error (.fieldNotFound name) := by
  intro h
  have hschema : bareMetadata.toSchema =
      .ok (.object { properties := [("metadata", .object { typed := true })], typed := true }) :=
    rfl
  obtain ⟨_, -, hresolve⟩ := h bareMetadata _ (.obj [("metadata", .obj [("name", .str "bucket")])])
    [.field "metadata", .field "name"] hschema (List.mem_singleton.mpr rfl)
  cases hresolve

end Json

end ComposeLint
