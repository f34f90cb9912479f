import ComposeLint.Proofs.ShapeFaults

/-!
# Values that conform to a schema

What it means for a value to conform is said here node by node, without a path and
without a list to report to (`Conforms`), and the shape check decides it:
`faultsAt_eq_nil_iff_conforms`. The check knows the root by the empty path. Conformance
keeps a flag for it instead, which is all of the path that ever matters.

The hard part is members that are not declared. The check asks first whether unknown
members are kept, then whether the member is one that every object has, and only then
what is said of additional ones; a member conforms if any of the three lets it stand.
-/

namespace ComposeLint

mutual

/-- The value is one of those that the schema describes. `root` tells whether it is a
whole document. -/
inductive Conforms : (root : Bool) → Schema → Json → Prop where
  | unknown (root : Bool) (v : Json) : Conforms root .unknown v
  | scalar {root : Bool} {type : JsonType} {v : Json} (h : v.type.fits type = true) :
      Conforms root (.scalar type) v
  /-- Items for which there is no schema may be anything. -/
  | array {root : Bool} {items : Items Schema} {values : List Json}
      (hitems : ∀ index value schema, values[index]? = some value →
        items.at? index = some schema → Conforms false schema value) :
      Conforms root (.array items) (.arr values)
  | untyped {root : Bool} {shape : ObjectShape Schema} {v : Json}
      (htyped : shape.typed = false) (hv : v.isObject = false) :
      Conforms root (.object shape) v
  | object {root : Bool} {shape : ObjectShape Schema} {members : List (String × Json)}
      (hrequired : ∀ name ∈ shape.required, Keyed.contains name members = true)
      (hmembers : ∀ name value, (name, value) ∈ members →
        MemberConforms root shape name value) :
      Conforms root (.object shape) (.obj members)

/-- The member conforms to what is declared of it, or is not declared and may stand. -/
inductive MemberConforms : (root : Bool) → ObjectShape Schema → String → Json → Prop where
  | declared {root : Bool} {shape : ObjectShape Schema} {name : String} {value : Json}
      {schema : Schema} (hname : Keyed.get? name shape.properties = some schema)
      (hvalue : Conforms false schema value) : MemberConforms root shape name value
  | preserved {root : Bool} {shape : ObjectShape Schema} {name : String} {value : Json}
      (hname : Keyed.get? name shape.properties = none)
      (h : shape.preservesUnknown = true) : MemberConforms root shape name value
  | implicit {shape : ObjectShape Schema} {name : String} {value : Json}
      (hname : Keyed.get? name shape.properties = none)
      (h : name ∈ ObjectShape.implicitRootMembers) : MemberConforms true shape name value
  | allowed {root : Bool} {shape : ObjectShape Schema} {name : String} {value : Json}
      (hname : Keyed.get? name shape.properties = none)
      (h : shape.additional = .allowed) : MemberConforms root shape name value
  | described {root : Bool} {shape : ObjectShape Schema} {name : String} {value : Json}
      {schema : Schema} (hname : Keyed.get? name shape.properties = none)
      (h : shape.additional = .described schema) (hvalue : Conforms false schema value) :
      MemberConforms root shape name value

end

variable {root : Bool} {shape : ObjectShape Schema} {items : Items Schema} {path : Path}

/-! ## One node -/

theorem conforms_scalar_iff {type : JsonType} {v : Json} :
    Conforms root (.scalar type) v ↔ v.type.fits type = true :=
  ⟨fun h => by cases h; assumption, .scalar⟩

theorem conforms_array_iff {v : Json} :
    Conforms root (.array items) v ↔
      ∃ values, v = .arr values ∧ ∀ index value schema, values[index]? = some value →
        items.at? index = some schema → Conforms false schema value := by
  constructor
  · intro h
    cases h with
    | array hitems => exact ⟨_, rfl, hitems⟩
  · rintro ⟨values, rfl, hitems⟩
    exact .array hitems

theorem conforms_object_obj_iff {members : List (String × Json)} :
    Conforms root (.object shape) (.obj members) ↔
      (∀ name ∈ shape.required, Keyed.contains name members = true) ∧
        ∀ name value, (name, value) ∈ members → MemberConforms root shape name value := by
  constructor
  · intro h
    cases h with
    | untyped _ hv => cases hv
    | object hrequired hmembers => exact ⟨hrequired, hmembers⟩
  · rintro ⟨hrequired, hmembers⟩
    exact .object hrequired hmembers

theorem conforms_object_iff_of_not_isObject {v : Json} (hv : v.isObject = false) :
    Conforms root (.object shape) v ↔ shape.typed = false := by
  constructor
  · intro h
    cases h with
    | untyped htyped _ => exact htyped
    | object => cases hv
  · intro htyped
    exact .untyped htyped hv

/-! ## The check and conformance -/

/-- A declared member conforms to its schema, and nothing else will do. -/
theorem memberConforms_iff_of_declared {name : String} {value : Json} {schema : Schema}
    (h : Keyed.get? name shape.properties = some schema) :
    MemberConforms root shape name value ↔ Conforms false schema value := by
  refine ⟨fun hmember => ?_, .declared h⟩
  cases hmember with
  | declared hname hvalue =>
      cases h.symm.trans hname
      exact hvalue
  | preserved hname | implicit hname | allowed hname | described hname =>
      cases h.symm.trans hname

theorem memberConforms_iff_of_undeclared {name : String} {value : Json}
    (h : Keyed.get? name shape.properties = none) :
    MemberConforms root shape name value ↔
      shape.preservesUnknown = true ∨
        (root = true ∧ name ∈ ObjectShape.implicitRootMembers) ∨
        match shape.additional with
        | .allowed => True
        | .described schema => Conforms false schema value
        | .forbidden => False := by
  constructor
  · intro hmember
    cases hmember with
    | declared hname => cases h.symm.trans hname
    | preserved _ h => exact .inl h
    | implicit _ h => exact .inr (.inl ⟨rfl, h⟩)
    | allowed _ h => exact .inr (.inr (by rw [h]; trivial))
    | described _ h hvalue => exact .inr (.inr (by rw [h]; exact hvalue))
  · rintro (hpreserved | ⟨rfl, himplicit⟩ | hadditional)
    · exact .preserved h hpreserved
    · exact .implicit h himplicit
    · split at hadditional
      · next hallowed => exact .allowed h hallowed
      · next hdescribed => exact .described h hdescribed hadditional
      · cases hadditional

/-- What the rule for a member finds wrong with it is nothing if the member conforms. -/
theorem MemberRule.faults_ruleAt_eq_nil_iff {name : String} {value : Json} {site : Path}
    (ih : ∀ schema, value.faultsAt schema site = [] ↔ Conforms false schema value) :
    (shape.ruleAt path name).faults value site = [] ↔
      MemberConforms path.isEmpty shape name value := by
  cases hget : Keyed.get? name shape.properties with
  | some schema =>
      rw [memberConforms_iff_of_declared hget, ← ih]
      simp only [ObjectShape.ruleAt, ObjectShape.rule, hget, MemberRule.faults]
  | none =>
      rw [memberConforms_iff_of_undeclared hget]
      simp only [ObjectShape.ruleAt, ObjectShape.rule, hget, List.isEmpty_iff]
      by_cases hroot : path = [] ∧ name ∈ ObjectShape.implicitRootMembers
      · cases shape.preservesUnknown <;> cases shape.additional <;>
          simp [hroot, MemberRule.faults]
      · cases shape.preservesUnknown <;> cases shape.additional <;>
          simp [hroot, MemberRule.faults, ih]

namespace Json

theorem faultsAt_eq_nil_iff_of_not_isObject {v : Json} (hv : v.isObject = false) :
    v.faultsAt (.object shape) path = [] ↔ shape.typed = false := by
  cases v with
  | obj members => cases hv
  | _ => simp [faultsAt]

/-- The check finds nothing wrong with a value if the value conforms. -/
theorem faultsAt_eq_nil_iff_conforms (v : Json) :
    ∀ {s : Schema} {path : Path}, v.faultsAt s path = [] ↔ Conforms path.isEmpty s v := by
  induction v using induction_children with
  | h v ih =>
      intro s path
      have hbelow : ∀ x ∈ v.children, ∀ segment schema,
          x.faultsAt schema (path ++ [segment]) = [] ↔ Conforms false schema x := by
        intro x hx segment schema
        have hpath : (path ++ [segment]).isEmpty = false := by simp
        rw [ih x hx, hpath]
      cases s with
      | unknown => exact iff_of_true (by rw [faultsAt]) (.unknown _ _)
      | scalar type =>
          rw [conforms_scalar_iff, faultsAt]
          split <;> simp_all
      | array items =>
          rw [conforms_array_iff]
          cases v with
          | arr values =>
              simp only [faultsAt_arr_eq_nil_iff, arr.injEq, exists_eq_left']
              refine forall₃_congr fun index value schema => imp_congr_right fun hvalue => ?_
              rw [Path.item, hbelow value (List.mem_of_getElem? hvalue)]
          | _ => simp [faultsAt]
      | object shape =>
          cases hv : v.isObject with
          | false =>
              rw [faultsAt_eq_nil_iff_of_not_isObject hv, conforms_object_iff_of_not_isObject hv]
          | true =>
              cases v with
              | obj members =>
                  rw [faultsAt_obj_eq_nil_iff, conforms_object_obj_iff, Prod.forall]
                  refine and_congr_right fun _ => forall₃_congr fun name value hmember => ?_
                  exact MemberRule.faults_ruleAt_eq_nil_iff
                    (hbelow value (List.mem_map_of_mem hmember) (.field name))
              | _ => cases hv

end Json

end ComposeLint
