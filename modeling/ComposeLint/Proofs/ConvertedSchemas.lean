import ComposeLint.Proofs.Outcomes
import ComposeLint.Proofs.SchemaWalk
import ComposeLint.Schema.Declaration

/-!
# Schemas that were declared

Of a schema that a declaration converts to more is known than of schemas at large: its
scalars are not arrays or objects, since a declared array or object becomes a node of
its own kind. That is said of one node here (`Schema.Converted.scalar_type_ne`), and
holds of every node that a path leads to, because a step from a converted schema
leads to a converted schema (`Schema.Converted.of_step`): properties, additional
members and items were each converted from what was declared of them.

Conversion is two functions over lists in one recursion with the one over
declarations. Here these two are turned into the `mapM` that they are.
-/

namespace ComposeLint

namespace Declaration

/-- Conversion goes by the kind of node. -/
theorem toSchema_eq_bind (d : Declaration) :
    d.toSchema = d.nodeKind >>= fun kind =>
      match kind with
      | .object typed => do
        let properties ← declaredProperties d.properties
        let additional ← declaredAdditional d.additional
        return .object
          { properties, required := ascending d.required, additional,
            preservesUnknown := d.preservesUnknown, typed }
      | .array => do return .array (← declaredItems d.items)
      | .leaf schema => .ok schema := by
  obtain ⟨_, properties, required, additional, items, preservesUnknown⟩ := d
  rw [toSchema]
  refine bind_congr fun kind => ?_
  cases kind <;> rfl

theorem propertySchemas_eq_mapM (properties : List (String × Declaration)) :
    propertySchemas properties = properties.mapM fun p => do
      return (p.1, ← p.2.toSchema.mapError (SchemaError.property p.1)) := by
  induction properties with
  | nil => rfl
  | cons p rest ih =>
      rw [propertySchemas, List.mapM_cons, ih]
      simp only [bind_assoc, pure_bind]

theorem schemas_eq_mapM (declarations : List Declaration) :
    schemas declarations = declarations.mapM toSchema := by
  induction declarations with
  | nil => rfl
  | cons d rest ih => rw [schemas, List.mapM_cons, ih]

/-- A leaf is unknown or a scalar, and the types of scalars are not those that make other
nodes. -/
theorem eq_of_nodeKind_leaf {d : Declaration} {s : Schema} (h : d.nodeKind = .ok (.leaf s)) :
    s = .unknown ∨ ∃ type, s = .scalar type ∧ type ≠ .object ∧ type ≠ .array := by
  rw [nodeKind] at h
  split at h
  · split at h <;> cases h
    exact .inl rfl
  · next name _ =>
      cases hname : JsonType.ofName? name with
      | none =>
          rw [hname] at h
          cases h
      | some type =>
          rw [hname] at h
          cases type with
          | object | array => cases h
          | boolean | integer | null | number | string =>
              cases h
              exact .inr ⟨_, rfl, nofun, nofun⟩

/-- A converted schema is an object, an array or a leaf, whose parts were converted. -/
theorem cases_of_toSchema {d : Declaration} {s : Schema} (h : d.toSchema = .ok s) :
    (∃ typed properties additional, declaredProperties d.properties = .ok properties ∧
        declaredAdditional d.additional = .ok additional ∧
        s = .object
          { properties, required := ascending d.required, additional,
            preservesUnknown := d.preservesUnknown, typed }) ∨
      (∃ items, declaredItems d.items = .ok items ∧ s = .array items) ∨
      s = .unknown ∨ ∃ type, s = .scalar type ∧ type ≠ .object ∧ type ≠ .array := by
  rw [toSchema_eq_bind, bind_eq_ok_iff] at h
  obtain ⟨kind, hkind, h⟩ := h
  cases kind with
  | object typed =>
      obtain ⟨properties, hproperties, h⟩ := bind_eq_ok_iff.mp h
      obtain ⟨additional, hadditional, ⟨⟩⟩ := bind_eq_ok_iff.mp h
      exact .inl ⟨typed, properties, additional, hproperties, hadditional, rfl⟩
  | array =>
      obtain ⟨items, hitems, ⟨⟩⟩ := bind_eq_ok_iff.mp h
      exact .inr (.inl ⟨items, hitems, rfl⟩)
  | leaf schema =>
      cases h
      exact .inr (.inr (eq_of_nodeKind_leaf hkind))

end Declaration

namespace Schema

/-- Some declaration converts to the schema. -/
def Converted (s : Schema) : Prop := ∃ d : Declaration, d.toSchema = .ok s

/-- An additional member that is described is described for all names. -/
theorem additional_of_rule_eq_described {shape : ObjectShape Schema} {name : String}
    {s : Schema} (h : shape.rule name = .described s) : shape.additional = .described s := by
  rw [ObjectShape.rule] at h
  split at h
  · cases h
  · split at h
    · cases h
    · split at h
      · cases h
      · next hadditional => cases h; exact hadditional
      · cases h

namespace Converted

variable {shape : ObjectShape Schema} {items : Items Schema} {s s' : Schema}

/-- Arrays and objects are no scalars. -/
theorem scalar_type_ne {type : JsonType} (h : (scalar type).Converted) :
    type ≠ .object ∧ type ≠ .array := by
  obtain ⟨d, hd⟩ := h
  rcases Declaration.cases_of_toSchema hd with
    ⟨_, _, _, -, -, ⟨⟩⟩ | ⟨_, -, ⟨⟩⟩ | ⟨⟨⟩⟩ | ⟨_, ⟨⟩, hne⟩
  exact hne

theorem of_property {name : String} (h : (object shape).Converted)
    (hs : (name, s) ∈ shape.properties) : s.Converted := by
  obtain ⟨d, hd⟩ := h
  rcases Declaration.cases_of_toSchema hd with
    ⟨_, properties, _, hproperties, -, ⟨⟩⟩ | ⟨_, -, ⟨⟩⟩ | ⟨⟨⟩⟩ | ⟨_, ⟨⟩, -⟩
  rw [Declaration.declaredProperties.eq_def] at hproperties
  split at hproperties
  · cases hproperties
    cases hs
  · rw [Declaration.propertySchemas_eq_mapM] at hproperties
    obtain ⟨p, -, hp⟩ := exists_of_mem_mapM hproperties hs
    obtain ⟨schema, hschema, ⟨⟩⟩ := bind_eq_ok_iff.mp hp
    exact ⟨p.2, mapError_eq_ok_iff.mp hschema⟩

theorem of_additional (h : (object shape).Converted)
    (hs : shape.additional = .described s) : s.Converted := by
  obtain ⟨d, hd⟩ := h
  rcases Declaration.cases_of_toSchema hd with
    ⟨_, _, additional, -, hadditional, ⟨⟩⟩ | ⟨_, -, ⟨⟩⟩ | ⟨⟨⟩⟩ | ⟨_, ⟨⟩, -⟩
  obtain rfl : additional = .described s := hs
  rw [Declaration.declaredAdditional.eq_def] at hadditional
  split at hadditional
  · cases hadditional
  · cases hadditional
  · cases hadditional
  · next declaration _ =>
      obtain ⟨schema, hschema, ⟨⟩⟩ := bind_eq_ok_iff.mp hadditional
      exact ⟨declaration, mapError_eq_ok_iff.mp hschema⟩

theorem of_item {index : Nat} (h : (array items).Converted) (hs : items.at? index = some s) :
    s.Converted := by
  obtain ⟨d, hd⟩ := h
  rcases Declaration.cases_of_toSchema hd with
    ⟨_, _, _, -, -, ⟨⟩⟩ | ⟨_, hitems, ⟨⟩⟩ | ⟨⟨⟩⟩ | ⟨_, ⟨⟩, -⟩
  rw [Declaration.declaredItems.eq_def] at hitems
  split at hitems
  · cases hitems
    cases hs
  · next declaration _ =>
      obtain ⟨schema, hschema, ⟨⟩⟩ := bind_eq_ok_iff.mp hitems
      obtain rfl : schema = s := Option.some.inj hs
      exact ⟨declaration, mapError_eq_ok_iff.mp hschema⟩
  · next declarations _ =>
      obtain ⟨schemas, hschemas, ⟨⟩⟩ := bind_eq_ok_iff.mp hitems
      rw [mapError_eq_ok_iff, Declaration.schemas_eq_mapM] at hschemas
      obtain ⟨declaration, -, hdeclaration⟩ :=
        exists_of_mem_mapM hschemas (List.mem_of_getElem? hs)
      exact ⟨declaration, hdeclaration⟩

/-- A step from a converted schema leads to a converted schema. -/
theorem of_step {segment : Segment} {required : Bool} (h : s.Converted)
    (hstep : s.step segment = .ok (.into s' required)) : s'.Converted := by
  rcases step_into hstep with ⟨shape, name, rfl, rfl, hrule⟩ | ⟨items, index, rfl, rfl, hitem, -⟩
  · rcases hrule with ⟨hrule, -⟩ | ⟨hrule, -⟩
    · exact h.of_property (Keyed.mem_of_get?_eq_some (rule_eq_declared_iff.mp hrule))
    · exact h.of_additional (additional_of_rule_eq_described hrule)
  · exact h.of_item hitem

end Converted

end Schema

end ComposeLint
