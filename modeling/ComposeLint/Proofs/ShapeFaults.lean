import ComposeLint.Proofs.Positions
import ComposeLint.Schema.Shape

/-!
# The faults of one node

The shape check is three functions in one recursion, over values, items and
members. Here the two over lists are turned into what they are, a `flatMap` of
the faults of each item and of each member, and the check of one node is read
off from its value and its schema. Nothing outside this file looks into the
recursion again.

Either a value is not of the type that its schema declares, and that is all, or its
faults are names that are required and missing, members that are not declared, and the
faults of its parts: `Json.mem_faultsAt_iff_faulty_or`.

A member is checked by the rule that the object has for it. `MemberRule.faults`
is that check, and the only place where the root differs from other nodes is the
rule that `ruleAt` picks: an undeclared member that every object has is free.
-/

namespace ComposeLint

/-- The faults of a member that stands at a path, under the rule for it. -/
def MemberRule.faults (rule : MemberRule) (value : Json) (path : Path) :
    List ShapeFault :=
  match rule with
  | declared schema | described schema => value.faultsAt schema path
  | free => []
  | forbidden => [⟨path, .undeclared⟩]

/-- The schema that a member is checked against. -/
def MemberRule.schema? : MemberRule → Option Schema
  | declared schema | described schema => some schema
  | free | forbidden => none

/-- The faults of the item at a position of an array. -/
def Items.faults (items : Items Schema) (value : Json) (index : Nat) (path : Path) :
    List ShapeFault :=
  match items.at? index with
  | some schema => value.faultsAt schema (path.item index)
  | none => []

theorem MemberRule.schema?_eq_some_iff {rule : MemberRule} {schema : Schema} :
    rule.schema? = some schema ↔ rule = .declared schema ∨ rule = .described schema := by
  cases rule <;> simp [MemberRule.schema?]

theorem MemberRule.ne_free_of_schema? {rule : MemberRule} {schema : Schema}
    (h : rule.schema? = some schema) : rule ≠ .free := by
  rintro rfl
  cases h

theorem MemberRule.mem_faults_iff {rule : MemberRule} {value : Json} {site : Path}
    {f : ShapeFault} :
    f ∈ rule.faults value site ↔
      (∃ schema, rule.schema? = some schema ∧ f ∈ value.faultsAt schema site) ∨
        rule = .forbidden ∧ f = ⟨site, .undeclared⟩ := by
  cases rule <;> simp [MemberRule.faults, MemberRule.schema?]

theorem ObjectShape.mem_missingFaults_iff {shape : ObjectShape Schema}
    {members : List (String × Json)} {path : Path} {f : ShapeFault} :
    f ∈ shape.missingFaults members path ↔
      ∃ name, name ∈ shape.required ∧ Keyed.contains name members = false ∧
        f = ⟨path.child name, .missing⟩ := by
  simp only [ObjectShape.missingFaults, List.mem_map, List.mem_filter, Bool.not_eq_true',
    and_assoc, @eq_comm _ f]

theorem Items.mem_faults_iff {items : Items Schema} {value : Json} {index : Nat} {path : Path}
    {f : ShapeFault} :
    f ∈ items.faults value index path ↔
      ∃ schema, items.at? index = some schema ∧ f ∈ value.faultsAt schema (path.item index) := by
  rw [Items.faults]
  cases items.at? index <;> simp

namespace Json

theorem memberFaults_eq_flatMap (members : List (String × Json))
    (shape : ObjectShape Schema) (path : Path) :
    memberFaults members shape path =
      members.flatMap fun m =>
        (shape.ruleAt path m.1).faults m.2 (path.child m.1) := by
  induction members with
  | nil => rw [memberFaults, List.flatMap_nil]
  | cons m rest ih =>
      rw [memberFaults, List.flatMap_cons, ih]
      rfl

theorem itemFaults_eq_flatMap (values : List Json) (items : Items Schema)
    (path : Path) : ∀ index : Nat,
    itemFaults values items index path =
      (values.zipIdx index).flatMap fun v => items.faults v.1 v.2 path := by
  induction values with
  | nil => intro index; rw [itemFaults, List.zipIdx_nil, List.flatMap_nil]
  | cons value rest ih =>
      intro index
      rw [itemFaults, List.zipIdx_cons, List.flatMap_cons, ih]
      rfl

/-- The values that a value is made of: items, or values of members. -/
def children : Json → List Json
  | arr items => items
  | obj members => Keyed.values members
  | _ => []

theorem sizeOf_lt_of_mem_children {v x : Json} (h : x ∈ v.children) :
    sizeOf x < sizeOf v := by
  cases v with
  | arr items =>
      have := List.sizeOf_lt_of_mem (show x ∈ items from h)
      simp only [arr.sizeOf_spec]
      omega
  | obj members =>
      obtain ⟨⟨name, value⟩, hm, rfl⟩ := List.mem_map.mp h
      have := List.sizeOf_lt_of_mem hm
      simp only [obj.sizeOf_spec, Prod.mk.sizeOf_spec] at this ⊢
      omega
  | _ => cases h

/-- Induction over a value, through all that it is made of. -/
theorem induction_children {motive : Json → Prop}
    (h : ∀ v, (∀ x ∈ v.children, motive x) → motive v) (v : Json) : motive v :=
  h v fun x hx =>
    have := sizeOf_lt_of_mem_children hx
    induction_children h x
termination_by sizeOf v

theorem Ordered.of_mem_children {v x : Json} (h : v.Ordered) (hx : x ∈ v.children) :
    x.Ordered := by
  cases v with
  | arr items => exact orderedItems_iff.mp h x hx
  | obj members =>
      obtain ⟨m, hm, rfl⟩ := List.mem_map.mp hx
      exact orderedMembers_iff.mp h.2 m hm
  | _ => cases hx

/-! ## The faults that a node has -/

theorem mem_faultsAt_arr_iff {values : List Json} {items : Items Schema}
    {path : Path} {f : ShapeFault} :
    f ∈ (arr values).faultsAt (.array items) path ↔
      ∃ value index, values[index]? = some value ∧
        f ∈ items.faults value index path := by
  rw [faultsAt, itemFaults_eq_flatMap]
  simp only [List.mem_flatMap, Prod.exists, List.mk_mem_zipIdx_iff_getElem?]

theorem mem_faultsAt_obj_iff {members : List (String × Json)}
    {shape : ObjectShape Schema} {path : Path} {f : ShapeFault} :
    f ∈ (obj members).faultsAt (.object shape) path ↔
      f ∈ shape.missingFaults members path ∨
        ∃ name value, (name, value) ∈ members ∧
          f ∈ (shape.ruleAt path name).faults value (path.child name) := by
  rw [faultsAt, memberFaults_eq_flatMap, List.mem_append]
  simp only [List.mem_flatMap, Prod.exists]

/-- The check of a value against a schema, at a path, goes on to a part of the value, at
the end of one more segment, and to the schema for that part. -/
inductive CheckedPart : Json → Schema → Path → Json → Schema → Segment → Prop where
  | item {values : List Json} {items : Items Schema} {path : Path} {index : Nat}
      {value : Json} {schema : Schema} (hvalue : values[index]? = some value)
      (hschema : items.at? index = some schema) :
      CheckedPart (.arr values) (.array items) path value schema (.index index)
  | member {members : List (String × Json)} {shape : ObjectShape Schema} {path : Path}
      {name : String} {value : Json} {schema : Schema} (hvalue : (name, value) ∈ members)
      (hschema : (shape.ruleAt path name).schema? = some schema) :
      CheckedPart (.obj members) (.object shape) path value schema (.field name)

/-- What is wrong with a value, at a path, against its schema, its parts not looked
into. -/
inductive Faulty : Json → Schema → Path → ShapeFault → Prop where
  | mismatch {v : Json} {s : Schema} {path : Path} {expected : JsonType}
      (htype : s.type? = some expected) (hfits : v.type.fits expected = false) :
      Faulty v s path ⟨path, .mismatch expected v.type⟩
  | missing {members : List (String × Json)} {shape : ObjectShape Schema} {path : Path}
      {name : String} (hrequired : name ∈ shape.required)
      (hmissing : Keyed.contains name members = false) :
      Faulty (.obj members) (.object shape) path ⟨path.child name, .missing⟩
  | undeclared {members : List (String × Json)} {shape : ObjectShape Schema} {path : Path}
      {name : String} {value : Json} (hvalue : (name, value) ∈ members)
      (hrule : shape.ruleAt path name = .forbidden) :
      Faulty (.obj members) (.object shape) path ⟨path.child name, .undeclared⟩

section Node

variable {v x : Json} {s t : Schema} {path : Path} {segment : Segment} {f : ShapeFault}

/-- A value that does not fit is a fault and has no others. -/
theorem faultsAt_eq_of_not_fits {expected : JsonType} (htype : s.type? = some expected)
    (hfits : v.type.fits expected = false) :
    v.faultsAt s path = [⟨path, .mismatch expected v.type⟩] := by
  cases s with
  | unknown => cases htype
  | scalar type =>
      cases htype
      simp [faultsAt, hfits]
  | array items =>
      cases htype
      cases v with
      | arr values => cases hfits
      | _ => simp [faultsAt]
  | object shape =>
      obtain ⟨htyped, heq⟩ := Option.ite_none_right_eq_some.mp htype
      cases heq
      cases v with
      | obj members => cases hfits
      | _ => simp [faultsAt, htyped]

/-- A value that fits has faults if it is an array or an object. -/
theorem cases_of_faultsAt_ne_nil (hfits : ∀ type, s.type? = some type → v.type.fits type = true)
    (hf : f ∈ v.faultsAt s path) :
    (∃ values items, v = .arr values ∧ s = .array items) ∨
      ∃ members shape, v = .obj members ∧ s = .object shape := by
  cases s with
  | unknown => simp [faultsAt] at hf
  | scalar type => simp [faultsAt, hfits type rfl] at hf
  | array items =>
      cases v with
      | arr values => exact .inl ⟨values, items, rfl, rfl⟩
      | _ => cases hfits .array rfl
  | object shape =>
      cases v with
      | obj members => exact .inr ⟨members, shape, rfl, rfl⟩
      | _ =>
          simp only [faultsAt, List.mem_ite_nil_right] at hf
          cases hfits .object (by simp [Schema.type?, hf.1])

/-- The faults of a node are its own and those of its parts. -/
theorem mem_faultsAt_iff_faulty_or :
    f ∈ v.faultsAt s path ↔ v.Faulty s path f ∨
      ∃ x t segment, v.CheckedPart s path x t segment ∧ f ∈ x.faultsAt t (path ++ [segment]) := by
  constructor
  · intro hf
    by_cases hfits : ∀ type, s.type? = some type → v.type.fits type = true
    · rcases cases_of_faultsAt_ne_nil hfits hf with
        ⟨values, items, rfl, rfl⟩ | ⟨members, shape, rfl, rfl⟩
      · obtain ⟨value, index, hvalue, hf⟩ := mem_faultsAt_arr_iff.mp hf
        obtain ⟨schema, hschema, hf⟩ := Items.mem_faults_iff.mp hf
        exact .inr ⟨value, schema, _, .item hvalue hschema, hf⟩
      · rcases mem_faultsAt_obj_iff.mp hf with hf | ⟨name, value, hvalue, hf⟩
        · obtain ⟨name, hrequired, hmissing, rfl⟩ := ObjectShape.mem_missingFaults_iff.mp hf
          exact .inl (.missing hrequired hmissing)
        · rcases MemberRule.mem_faults_iff.mp hf with ⟨schema, hschema, hf⟩ | ⟨hrule, rfl⟩
          · exact .inr ⟨value, schema, _, .member hvalue hschema, hf⟩
          · exact .inl (.undeclared hvalue hrule)
    · obtain ⟨type, htype, hfits⟩ : ∃ type, s.type? = some type ∧ v.type.fits type = false := by
        simpa using hfits
      rw [faultsAt_eq_of_not_fits htype hfits, List.mem_singleton] at hf
      exact .inl (hf ▸ .mismatch htype hfits)
  · rintro (hfaulty | ⟨x, t, segment, hpart, hf⟩)
    · cases hfaulty with
      | mismatch htype hfits =>
          rw [faultsAt_eq_of_not_fits htype hfits]
          exact List.mem_singleton_self _
      | missing hrequired hmissing =>
          exact mem_faultsAt_obj_iff.mpr
            (.inl (ObjectShape.mem_missingFaults_iff.mpr ⟨_, hrequired, hmissing, rfl⟩))
      | undeclared hvalue hrule =>
          exact mem_faultsAt_obj_iff.mpr
            (.inr ⟨_, _, hvalue, MemberRule.mem_faults_iff.mpr (.inr ⟨hrule, rfl⟩)⟩)
    · cases hpart with
      | item hvalue hschema =>
          exact mem_faultsAt_arr_iff.mpr
            ⟨_, _, hvalue, Items.mem_faults_iff.mpr ⟨_, hschema, hf⟩⟩
      | member hvalue hschema =>
          exact mem_faultsAt_obj_iff.mpr
            (.inr ⟨_, _, hvalue, MemberRule.mem_faults_iff.mpr (.inl ⟨_, hschema, hf⟩)⟩)

theorem CheckedPart.mem_children (h : v.CheckedPart s path x t segment) : x ∈ v.children := by
  cases h with
  | item hvalue _ => exact List.mem_of_getElem? hvalue
  | member hvalue _ => exact List.mem_map_of_mem (f := Prod.snd) hvalue

end Node

/-! ## Nodes without faults -/

theorem fits_of_faultsAt_scalar {v : Json} {type : JsonType} {path : Path}
    (h : v.faultsAt (.scalar type) path = []) : v.type.fits type = true := by
  rw [faultsAt] at h
  split at h
  · assumption
  · cases h

theorem exists_items_of_faultsAt_array {v : Json} {items : Items Schema}
    {path : Path} (h : v.faultsAt (.array items) path = []) :
    ∃ values, v = .arr values := by
  cases v with
  | arr values => exact ⟨values, rfl⟩
  | _ => cases h

theorem exists_members_of_faultsAt_object {v : Json} {shape : ObjectShape Schema}
    {path : Path} (htyped : shape.typed = true)
    (h : v.faultsAt (.object shape) path = []) : ∃ members, v = .obj members := by
  cases v with
  | obj members => exact ⟨members, rfl⟩
  | _ => simp [faultsAt, htyped] at h

/-- The items of a node without faults have none, each under the schema for its
position. -/
theorem faultsAt_arr_eq_nil_iff {values : List Json} {items : Items Schema} {path : Path} :
    (arr values).faultsAt (.array items) path = [] ↔
      ∀ index value schema, values[index]? = some value → items.at? index = some schema →
        value.faultsAt schema (path.item index) = [] := by
  rw [faultsAt, itemFaults_eq_flatMap, List.flatMap_eq_nil_iff, forall_mem_zipIdx_iff]
  refine forall₂_congr fun index value => ?_
  rw [forall_comm]
  refine imp_congr_right fun _ => ?_
  rw [Items.faults]
  cases items.at? index <;> simp

theorem faultsAt_item {values : List Json} {items : Items Schema} {path : Path}
    (h : (arr values).faultsAt (.array items) path = []) {index : Nat}
    {value : Json} {schema : Schema} (hvalue : values[index]? = some value)
    (hschema : items.at? index = some schema) :
    value.faultsAt schema (path.item index) = [] :=
  faultsAt_arr_eq_nil_iff.mp h index value schema hvalue hschema

theorem faultsAt_obj_eq_nil_iff {members : List (String × Json)}
    {shape : ObjectShape Schema} {path : Path} :
    (obj members).faultsAt (.object shape) path = [] ↔
      (∀ name ∈ shape.required, Keyed.contains name members = true) ∧
        ∀ m ∈ members,
          (shape.ruleAt path m.1).faults m.2 (path.child m.1) = [] := by
  rw [faultsAt, memberFaults_eq_flatMap, List.append_eq_nil_iff,
    List.flatMap_eq_nil_iff, ObjectShape.missingFaults, List.map_eq_nil_iff,
    List.filter_eq_nil_iff]
  simp only [Bool.not_eq_true', Bool.not_eq_false]

/-- The member of a node without faults has none under its rule. -/
theorem faults_of_member {members : List (String × Json)}
    {shape : ObjectShape Schema} {path : Path}
    (h : (obj members).faultsAt (.object shape) path = []) {name : String}
    {value : Json} (hvalue : Keyed.get? name members = some value) :
    (shape.ruleAt path name).faults value (path.child name) = [] :=
  (faultsAt_obj_eq_nil_iff.mp h).2 _ (Keyed.mem_of_get?_eq_some hvalue)

/-- A value without faults has the type that its schema declares. -/
theorem type_fits_of_faultsAt {v : Json} {s : Schema} {path : Path} {type : JsonType}
    (h : v.faultsAt s path = []) (htype : s.type? = some type) :
    v.type.fits type = true := by
  cases s with
  | object shape =>
      rw [Schema.type?, Option.ite_none_right_eq_some] at htype
      obtain ⟨htyped, htype⟩ := htype
      injection htype with htype
      subst htype
      obtain ⟨members, rfl⟩ := exists_members_of_faultsAt_object htyped h
      rfl
  | array items =>
      injection htype with htype
      subst htype
      obtain ⟨values, rfl⟩ := exists_items_of_faultsAt_array h
      rfl
  | scalar declared =>
      injection htype with htype
      subst htype
      exact fits_of_faultsAt_scalar h
  | unknown => cases htype

end Json

end ComposeLint
