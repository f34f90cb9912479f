import ComposeLint.Proofs.ConvertedSchemas

/-!
# The parts of a schema

A declaration and the schema that it converts to are trees of the same shape. A node
of either is found from the root by the parts that lead to it: properties, additional
members and items. `Declaration.parts` lists the parts of a node that conversion goes on
to, in its order, and `Schema.part?` looks up a part of a converted node.

What conversion does at one node is said here once, for all kinds of nodes: whether it
succeeds, and the error if it fails, is a matter of the type of the node and of its parts
in that order (`discard_toSchema`), and the parts of what it makes are what the parts of
the declaration convert to (`part?_of_toSchema`). Parts of a node that its type does not
ask for are not among them, which is why a fault below a text, say, is never seen.
-/

namespace ComposeLint

/-- What leads from a node of a schema to one that it is made of. -/
inductive SchemaPart where
  | property (name : String)
  | additional
  /-- The schema of all items. -/
  | items
  /-- The schema of the item at a position. -/
  | item (index : Nat)

/-- The parts that lead from the root of a schema to a node. -/
abbrev SchemaPath := List SchemaPart

/-- The error of a part, as an error of the node that it is a part of. -/
def SchemaPart.wrap : SchemaPart → SchemaError → SchemaError
  | property name => .property name
  | additional => .additionalProperties
  | items | item _ => .items

namespace Declaration

/-- Whether a node is one of an object: it declares that type, or declares none and has
something that objects have. -/
def describesObject (d : Declaration) : Bool :=
  d.type = some "object" ||
    d.type = none && (d.properties.isSome || d.additional.isSome || d.preservesUnknown)

def propertyParts (d : Declaration) : List (SchemaPart × Declaration) :=
  (d.properties.getD []).map fun p => (.property p.1, p.2)

def additionalParts (d : Declaration) : List (SchemaPart × Declaration) :=
  match d.additional with
  | some (.described c) => [(.additional, c)]
  | _ => []

def itemParts (d : Declaration) : List (SchemaPart × Declaration) :=
  match d.items with
  | .any => []
  | .each c => [(.items, c)]
  | .positional cs => cs.zipIdx.map fun c => (.item c.2, c.1)

/-- The parts of a node that conversion goes on to. -/
def parts (d : Declaration) : List (SchemaPart × Declaration) :=
  if d.describesObject then d.propertyParts ++ d.additionalParts
  else if d.type = some "array" then d.itemParts
  else []

/-- Conversion comes to the node at that path. -/
inductive Visits : Declaration → SchemaPath → Declaration → Prop where
  | root (d : Declaration) : Visits d [] d
  | part {d c node : Declaration} {part : SchemaPart} {path : SchemaPath}
      (hpart : (part, c) ∈ d.parts) (hrest : Visits c path node) :
      Visits d (part :: path) node

/-- The type that the node declares, if it declares one, exists. -/
def TypeKnown (d : Declaration) : Prop :=
  ∀ name, d.type = some name → ∃ type : JsonType, type.name = name

/-- The properties of all nodes are in the order of their names. -/
def Ordered (d : Declaration) : Prop :=
  ∀ path node, d.Visits path node → Keyed.Ascending (node.properties.getD [])

end Declaration

namespace Schema

def part? : Schema → SchemaPart → Option Schema
  | object shape, .property name => Keyed.get? name shape.properties
  | object ⟨_, _, .described s, _, _⟩, .additional => some s
  | array (.each s), .items => some s
  | array (.positional schemas), .item index => schemas[index]?
  | _, _ => none

/-- The node at a path. -/
def node? (s : Schema) : SchemaPath → Option Schema
  | [] => some s
  | part :: rest => (s.part? part).bind (·.node? rest)

end Schema

namespace Declaration

variable {d c : Declaration} {s : Schema} {part : SchemaPart}

theorem mem_propertyParts_iff :
    (part, c) ∈ d.propertyParts ↔
      ∃ name, part = .property name ∧ (name, c) ∈ d.properties.getD [] := by
  simp only [propertyParts, List.mem_map, Prod.exists, Prod.mk.injEq]
  constructor
  · rintro ⟨name, _, hmem, rfl, rfl⟩
    exact ⟨name, rfl, hmem⟩
  · rintro ⟨name, rfl, hmem⟩
    exact ⟨name, c, hmem, rfl, rfl⟩

theorem mem_additionalParts_iff :
    (part, c) ∈ d.additionalParts ↔
      part = .additional ∧ d.additional = some (.described c) := by
  rw [additionalParts]
  split
  · next h => simp [h, eq_comm]
  · next h => exact iff_of_false List.not_mem_nil fun heq => h c heq.2

theorem mem_itemParts_iff :
    (part, c) ∈ d.itemParts ↔
      part = .items ∧ d.items = .each c ∨
        ∃ cs index, part = .item index ∧ d.items = .positional cs ∧ cs[index]? = some c := by
  rw [itemParts]
  cases d.items with
  | any => simp
  | each c' => simp [eq_comm]
  | positional cs =>
      simp only [List.mem_map, Prod.exists, List.mk_mem_zipIdx_iff_getElem?, Prod.mk.injEq,
        reduceCtorEq, and_false, false_or, Items.positional.injEq]
      constructor
      · rintro ⟨_, index, hc, rfl, rfl⟩
        exact ⟨cs, index, rfl, rfl, hc⟩
      · rintro ⟨_, index, rfl, rfl, hc⟩
        exact ⟨c, index, hc, rfl, rfl⟩

theorem sizeOf_lt_of_mem_parts (h : (part, c) ∈ d.parts) : sizeOf c < sizeOf d := by
  rw [parts] at h
  obtain ⟨_, properties, _, _, _, _⟩ := d
  simp only [mk.sizeOf_spec]
  split at h
  · rcases List.mem_append.mp h with h | h
    · obtain ⟨name, -, hc⟩ := mem_propertyParts_iff.mp h
      cases properties with
      | none => cases hc
      | some properties =>
          have := List.sizeOf_lt_of_mem (show (name, c) ∈ properties from hc)
          simp only [Option.some.sizeOf_spec, Prod.mk.sizeOf_spec] at this ⊢
          omega
    · obtain ⟨-, ⟨⟩⟩ := mem_additionalParts_iff.mp h
      simp only [Option.some.sizeOf_spec, Additional.described.sizeOf_spec]
      omega
  · split at h
    · rcases mem_itemParts_iff.mp h with ⟨-, ⟨⟩⟩ | ⟨cs, _, -, ⟨⟩, hc⟩
      · simp only [Items.each.sizeOf_spec]
        omega
      · have := List.sizeOf_lt_of_mem (List.mem_of_getElem? hc)
        simp only [Items.positional.sizeOf_spec]
        omega
    · cases h

/-- Induction over a declaration, through the nodes that conversion comes to. -/
theorem induction_parts {motive : Declaration → Prop}
    (h : ∀ d, (∀ part c, (part, c) ∈ d.parts → motive c) → motive d) (d : Declaration) :
    motive d :=
  h d fun _ c hc =>
    have := sizeOf_lt_of_mem_parts hc
    induction_parts h c
termination_by sizeOf d

theorem ordered_iff :
    d.Ordered ↔ Keyed.Ascending (d.properties.getD []) ∧
      ∀ part c, (part, c) ∈ d.parts → c.Ordered := by
  constructor
  · intro h
    exact ⟨h [] d (.root d), fun part c hc path node hnode => h _ _ (.part hc hnode)⟩
  · rintro ⟨hroot, hparts⟩ path node hnode
    cases hnode with
    | root => exact hroot
    | part hpart hrest => exact hparts _ _ hpart _ _ hrest

/-! ## One node -/

theorem nodeKind_eq_error_iff {e : SchemaError} :
    d.nodeKind = .error e ↔
      ∃ name, d.type = some name ∧ (∀ type : JsonType, type.name ≠ name) ∧
        e = .unknownType name := by
  rw [nodeKind]
  cases d.type with
  | none =>
      simp only [reduceCtorEq, false_and, exists_false, iff_false]
      split <;> simp
  | some name =>
      simp only [Option.some.injEq, exists_eq_left', ← JsonType.ofName?_eq_none_iff]
      cases JsonType.ofName? name with
      | none => simp [eq_comm]
      | some type => cases type <;> simp

theorem exists_nodeKind_iff : (∃ kind, d.nodeKind = .ok kind) ↔ d.TypeKnown := by
  have herror : (∃ kind, d.nodeKind = .ok kind) ↔ ∀ e, d.nodeKind ≠ .error e := by
    cases d.nodeKind <;> simp
  simp only [herror, ne_eq, nodeKind_eq_error_iff, not_exists, not_and]
  constructor
  · intro h name hname
    by_contra hall
    exact h _ name hname (not_exists.mp hall) rfl
  · rintro h _ name hname hall -
    obtain ⟨type, htype⟩ := h name hname
    exact hall type htype

/-- What the kind of a node says of its declaration. -/
theorem of_nodeKind {kind : NodeKind} (h : d.nodeKind = .ok kind) :
    match kind with
    | .object typed =>
        d.describesObject = true ∧ d.type = if typed then some "object" else none
    | .array => d.describesObject = false ∧ d.type = some "array"
    | .leaf s => d.parts = [] ∧ s.type?.map JsonType.name = d.type ∧
        ∀ part, s.part? part = none := by
  rw [nodeKind] at h
  split at h
  · next htype =>
      split at h
      · next hfeatures =>
          cases h
          exact ⟨by simpa [describesObject, htype] using hfeatures, htype⟩
      · next hfeatures =>
          cases h
          rw [Bool.not_eq_true] at hfeatures
          refine ⟨?_, htype.symm, fun part => by cases part <;> rfl⟩
          simp [parts, describesObject, htype, hfeatures]
  · next name htype =>
      cases hname : JsonType.ofName? name with
      | none =>
          rw [hname] at h
          cases h
      | some type =>
          rw [hname] at h
          obtain rfl := JsonType.ofName?_eq_some_iff.mp hname
          cases type with
          | object => cases h; exact ⟨by simp [describesObject, htype, JsonType.name], htype⟩
          | array => cases h; exact ⟨by simp [describesObject, htype, JsonType.name], htype⟩
          | boolean | integer | null | number | string =>
              cases h
              refine ⟨?_, htype.symm, fun part => by cases part <;> rfl⟩
              simp [parts, describesObject, htype, JsonType.name]

/-! ## Conversion of one node -/

/-- What becomes of a part of a node, apart from what it is converted to. -/
def convertPart (p : SchemaPart × Declaration) : Except SchemaError Unit :=
  discard (p.2.toSchema.mapError p.1.wrap)

theorem discard_declaredProperties :
    discard (declaredProperties d.properties) = forM d.propertyParts convertPart := by
  rw [propertyParts, List.forM_map]
  cases d.properties with
  | none => rfl
  | some properties =>
      rw [declaredProperties, propertySchemas_eq_mapM, discard_mapM]
      simp only [discard_bind_pure]
      rfl

theorem discard_declaredAdditional :
    discard (declaredAdditional d.additional) = forM d.additionalParts convertPart := by
  rw [additionalParts]
  match d.additional with
  | none => rfl
  | some .forbidden => rfl
  | some .allowed => rfl
  | some (.described c) =>
      rw [declaredAdditional, discard_bind_pure, List.forM_cons, List.forM_nil, bind_pure]
      rfl

theorem discard_declaredItems :
    discard (declaredItems d.items) = forM d.itemParts convertPart := by
  rw [itemParts]
  match d.items with
  | .any => rfl
  | .each c =>
      rw [declaredItems, discard_bind_pure, List.forM_cons, List.forM_nil, bind_pure]
      rfl
  | .positional cs =>
      -- Where an item stands shows in its path, and not in its error.
      have hitem : forM cs.zipIdx (fun c => convertPart (.item c.2, c.1)) =
          forM (cs.zipIdx.map Prod.fst) fun c => discard (c.toSchema.mapError .items) := by
        rw [List.forM_map]
        rfl
      rw [declaredItems, discard_bind_pure, schemas_eq_mapM, mapError_mapM, discard_mapM,
        List.forM_map]
      rw [List.zipIdx_map_fst] at hitem
      exact hitem.symm

/-- Conversion fails where the type of the node does not exist, or else with the first
of its parts that fails. -/
theorem discard_toSchema :
    discard d.toSchema = d.nodeKind >>= fun _ => forM d.parts convertPart := by
  rw [toSchema_eq_bind, discard_bind]
  cases hkind : d.nodeKind with
  | error e => rfl
  | ok kind =>
      have hnode := of_nodeKind hkind
      cases kind with
      | object typed =>
          have hparts : d.parts = d.propertyParts ++ d.additionalParts := by
            rw [parts, if_pos hnode.1]
          change discard (declaredProperties d.properties >>= fun properties =>
            declaredAdditional d.additional >>= fun additional => pure _) =
              forM d.parts convertPart
          rw [hparts, List.forM_append, ← discard_declaredProperties,
            ← discard_declaredAdditional, discard_bind]
          simp only [discard_bind_pure]
          cases declaredProperties d.properties <;> rfl
      | array =>
          have hparts : d.parts = d.itemParts := by
            rw [parts, if_neg (by simp [hnode.1]), if_pos hnode.2]
          change discard (declaredItems d.items >>= fun items => pure _) =
            forM d.parts convertPart
          rw [hparts, discard_bind_pure, discard_declaredItems]
      | leaf s =>
          change discard (.ok s) = forM d.parts convertPart
          rw [hnode.1]
          rfl

theorem convertPart_eq_error_iff {p : SchemaPart × Declaration} {e : SchemaError} :
    convertPart p = .error e ↔ ∃ cause, p.2.toSchema = .error cause ∧ e = p.1.wrap cause := by
  rw [convertPart, discard_eq_error_iff, mapError_eq_error_iff]
  simp only [eq_comm]

theorem convertPart_ne_error_iff {p : SchemaPart × Declaration} :
    (∀ e, convertPart p ≠ .error e) ↔ ∃ s, p.2.toSchema = .ok s := by
  simp only [ne_eq, convertPart_eq_error_iff]
  cases p.2.toSchema <;> simp

/-- The first of the parts of a node that does not convert. -/
theorem toSchema_eq_error_iff {e : SchemaError} :
    d.toSchema = .error e ↔ d.nodeKind = .error e ∨ d.TypeKnown ∧
      ∃ before p after cause, d.parts = before ++ p :: after ∧
        (∀ q ∈ before, ∃ s, q.2.toSchema = .ok s) ∧ p.2.toSchema = .error cause ∧
        e = p.1.wrap cause := by
  rw [← discard_eq_error_iff, discard_toSchema, bind_eq_error_iff, ← exists_nodeKind_iff,
    exists_and_right, forM_eq_error_iff]
  simp only [convertPart_ne_error_iff, convertPart_eq_error_iff, exists_and_left]

/-- A node converts if its type exists and its parts convert. -/
theorem exists_toSchema_iff :
    (∃ s, d.toSchema = .ok s) ↔
      d.TypeKnown ∧ ∀ part c, (part, c) ∈ d.parts → ∃ s, c.toSchema = .ok s := by
  have hpart : ∀ p, convertPart p = .ok () ↔ ∃ s, p.2.toSchema = .ok s := by
    intro p
    rw [convertPart, discard_eq_ok_iff]
    simp only [mapError_eq_ok_iff]
  rw [← discard_eq_ok_iff, discard_toSchema, bind_eq_ok_iff, ← exists_nodeKind_iff,
    exists_and_right, forM_eq_ok_iff]
  simp only [hpart, Prod.forall]

/-! ## What a node is converted to -/

theorem type?_of_toSchema (h : d.toSchema = .ok s) : s.type?.map JsonType.name = d.type := by
  rw [toSchema_eq_bind, bind_eq_ok_iff] at h
  obtain ⟨kind, hkind, h⟩ := h
  have hnode := of_nodeKind hkind
  cases kind with
  | object typed =>
      obtain ⟨properties, -, h⟩ := bind_eq_ok_iff.mp h
      obtain ⟨additional, -, ⟨⟩⟩ := bind_eq_ok_iff.mp h
      rw [hnode.2]
      cases typed <;> rfl
  | array =>
      obtain ⟨items, -, ⟨⟩⟩ := bind_eq_ok_iff.mp h
      exact hnode.2.symm
  | leaf schema =>
      cases h
      exact hnode.2.1

theorem keys_propertySchemas {properties : List (String × Declaration)} :
    ∀ {schemas : List (String × Schema)}, propertySchemas properties = .ok schemas →
      Keyed.keys schemas = Keyed.keys properties := by
  induction properties with
  | nil =>
      rintro _ ⟨⟩
      rfl
  | cons p rest ih =>
      intro schemas h
      rw [propertySchemas] at h
      obtain ⟨s, -, h⟩ := bind_eq_ok_iff.mp h
      obtain ⟨schemas, hrest, ⟨⟩⟩ := bind_eq_ok_iff.mp h
      exact congrArg (p.1 :: ·) (ih hrest)

theorem get?_declaredProperties {properties : List (String × Schema)}
    (hd : Keyed.Ascending (d.properties.getD []))
    (h : declaredProperties d.properties = .ok properties) {name : String} :
    Keyed.get? name properties = some s ↔
      ∃ c, (name, c) ∈ d.properties.getD [] ∧ c.toSchema = .ok s := by
  revert hd h
  cases d.properties with
  | none =>
      rintro - ⟨⟩
      simp
  | some declared =>
      intro hd h
      rw [declaredProperties] at h
      rw [Keyed.get?_eq_some_iff (keys_propertySchemas h ▸ hd.nodup)]
      rw [propertySchemas_eq_mapM] at h
      constructor
      · intro hs
        obtain ⟨p, hp, hconvert⟩ := exists_of_mem_mapM h hs
        obtain ⟨_, hschema, ⟨⟩⟩ := bind_eq_ok_iff.mp hconvert
        exact ⟨p.2, hp, mapError_eq_ok_iff.mp hschema⟩
      · rintro ⟨c, hc, hs⟩
        obtain ⟨q, hq, hconvert⟩ := exists_mem_of_mapM h hc
        obtain ⟨_, hschema, ⟨⟩⟩ := bind_eq_ok_iff.mp hconvert
        rw [mapError_eq_ok_iff, hs] at hschema
        cases hschema
        exact hq

theorem declaredAdditional_eq_described_iff {additional : Additional Schema}
    (h : declaredAdditional d.additional = .ok additional) :
    additional = .described s ↔
      ∃ c, d.additional = some (.described c) ∧ c.toSchema = .ok s := by
  rw [declaredAdditional.eq_def] at h
  split at h
  · next hnone => cases h; simp [hnone]
  · next hforbidden => cases h; simp [hforbidden]
  · next hallowed => cases h; simp [hallowed]
  · next c hdescribed =>
      obtain ⟨schema, hschema, ⟨⟩⟩ := bind_eq_ok_iff.mp h
      rw [mapError_eq_ok_iff] at hschema
      simp [hdescribed, hschema]

theorem part?_declaredItems {items : Items Schema} (h : declaredItems d.items = .ok items) :
    (Schema.array items).part? part = some s ↔
      ∃ c, (part, c) ∈ d.itemParts ∧ c.toSchema = .ok s := by
  simp only [mem_itemParts_iff]
  rw [declaredItems.eq_def] at h
  split at h
  · next hany =>
      cases h
      cases part <;> simp [Schema.part?, hany]
  · next c heach =>
      obtain ⟨schema, hschema, ⟨⟩⟩ := bind_eq_ok_iff.mp h
      rw [mapError_eq_ok_iff] at hschema
      cases part <;> simp [Schema.part?, heach, hschema]
  · next cs hpositional =>
      obtain ⟨converted, hconverted, ⟨⟩⟩ := bind_eq_ok_iff.mp h
      rw [mapError_eq_ok_iff, schemas_eq_mapM, mapM_eq_ok_iff] at hconverted
      -- At every position, what stands there was converted to what stands there.
      have hindex : ∀ index : Nat, converted[index]? = some s ↔
          ∃ c, cs[index]? = some c ∧ c.toSchema = .ok s := by
        intro index
        have hget := congrArg (·[index]?) hconverted
        simp only [List.getElem?_map] at hget
        cases hc : cs[index]? <;> cases hs : converted[index]? <;> simp_all
      cases part <;> simp [Schema.part?, hpositional, hindex]

/-- The parts of a converted node are what the parts of its declaration convert to. -/
theorem part?_of_toSchema (hd : Keyed.Ascending (d.properties.getD []))
    (h : d.toSchema = .ok s) {s' : Schema} :
    s.part? part = some s' ↔ ∃ c, (part, c) ∈ d.parts ∧ c.toSchema = .ok s' := by
  rw [toSchema_eq_bind, bind_eq_ok_iff] at h
  obtain ⟨kind, hkind, h⟩ := h
  have hnode := of_nodeKind hkind
  cases kind with
  | object typed =>
      obtain ⟨properties, hproperties, h⟩ := bind_eq_ok_iff.mp h
      obtain ⟨additional, hadditional, ⟨⟩⟩ := bind_eq_ok_iff.mp h
      simp only [parts, if_pos hnode.1, List.mem_append, mem_propertyParts_iff,
        mem_additionalParts_iff]
      cases part with
      | property name =>
          rw [Schema.part?, get?_declaredProperties hd hproperties]
          simp
      | additional =>
          have hpart : ∀ additional : Additional Schema,
              (Schema.object
                { properties, required := ascending d.required, additional,
                  preservesUnknown := d.preservesUnknown, typed }).part? .additional = some s' ↔
                additional = .described s' := by
            intro additional
            cases additional <;> simp [Schema.part?]
          rw [hpart, declaredAdditional_eq_described_iff hadditional]
          simp
      | items => simp [Schema.part?]
      | item index => simp [Schema.part?]
  | array =>
      obtain ⟨items, hitems, ⟨⟩⟩ := bind_eq_ok_iff.mp h
      rw [part?_declaredItems hitems, parts, if_neg (by simp [hnode.1]), if_pos hnode.2]
  | leaf schema =>
      cases h
      simp [hnode.1, hnode.2.2]

end Declaration

end ComposeLint
