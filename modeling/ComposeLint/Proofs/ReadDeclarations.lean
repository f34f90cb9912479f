import ComposeLint.Proofs.SchemaParts
import ComposeLint.Proofs.ShapeFaults
import ComposeLint.Schema.Declaration.Reader

/-!
# Declarations that were read

A declaration that is read from a document has its properties in the order of their
names, at every node, because the members of an object are in that order: this is
`ordered_of_read?`. Reading goes through the members of an object and changes the
declaration by one field at a time, so the order is an invariant of that walk, and what
a key may do to a declaration is said once, as `ReadStep`.
-/

namespace ComposeLint

namespace Declaration

/-- What reading the value of one key does to a declaration. -/
inductive ReadStep (value : Json) (d : Declaration) : Declaration → Prop where
  | plain (type : Option String) (required : List String) (preservesUnknown : Bool) :
      ReadStep value d { d with type, required, preservesUnknown }
  | properties {members : List (String × Json)} {properties : List (String × Declaration)}
      (hvalue : value = .obj members) (h : readMap members = some properties) :
      ReadStep value d { d with properties := some properties }
  | flag (b : Bool) :
      ReadStep value d { d with additional := some (if b then .allowed else .forbidden) }
  | described {c : Declaration} (h : read? value = some c) :
      ReadStep value d { d with additional := some (.described c) }
  | each {c : Declaration} (h : read? value = some c) :
      ReadStep value d { d with items := .each c }
  | positional {values : List Json} {cs : List Declaration} (hvalue : value = .arr values)
      (h : readItems values = some cs) : ReadStep value d { d with items := .positional cs }

theorem ReadStep.refl (value : Json) : ∀ d : Declaration, ReadStep value d d
  | ⟨type, _, required, _, _, preservesUnknown⟩ => .plain type required preservesUnknown

theorem whole_eq_read? (members : List (String × Json)) :
    readKey.whole members = read? (.obj members) := by
  rw [readKey.whole, read?]

/-- A key that says nothing about types leaves the declaration as it is. -/
theorem eq_of_isRead {key : String} {d d' : Declaration}
    (h : (if readKey.isRead key = true then none else some d) = some d') : d = d' := by
  split at h
  · cases h
  · exact Option.some.inj h

theorem readStep_of_readKey {key : String} {value : Json} {d d' : Declaration}
    (h : readKey key value d = some d') : ReadStep value d d' := by
  rw [readKey.eq_def] at h
  split at h
  · cases h
    exact .refl _ _
  · split at h
    · cases h
      exact .flag _
    · cases h
      exact .plain _ _ _
    · cases h
      exact .refl _ _
    · cases eq_of_isRead h
      exact .refl _ _
  · split at h
    · cases h
      exact .plain _ _ _
    · cases eq_of_isRead h
      exact .refl _ _
  · split at h
    · obtain ⟨_, _, ⟨⟩⟩ := Option.bind_eq_some_iff.mp h
      exact .plain _ _ _
    · obtain ⟨_, hcs, ⟨⟩⟩ := Option.bind_eq_some_iff.mp h
      exact .positional rfl hcs
    all_goals
      first
        | obtain ⟨_, _, ⟨⟩⟩ := Option.map_eq_some_iff.mp h
          exact .refl _ _
        | cases eq_of_isRead h
          exact .refl _ _
  · split at h
    · obtain ⟨_, hproperties, ⟨⟩⟩ := Option.bind_eq_some_iff.mp h
      exact .properties rfl hproperties
    · obtain ⟨_, hc, ⟨⟩⟩ := Option.bind_eq_some_iff.mp h
      exact .described (whole_eq_read? _ ▸ hc)
    · obtain ⟨_, hc, ⟨⟩⟩ := Option.bind_eq_some_iff.mp h
      exact .each (whole_eq_read? _ ▸ hc)
    all_goals
      first
        | obtain ⟨_, _, ⟨⟩⟩ := Option.map_eq_some_iff.mp h
          exact .refl _ _
        | cases eq_of_isRead h
          exact .refl _ _
  · cases eq_of_isRead h
    exact .refl _ _
  · cases eq_of_isRead h
    exact .refl _ _

theorem mem_readItems {values : List Json} : ∀ {cs : List Declaration},
    readItems values = some cs → ∀ c ∈ cs, ∃ x ∈ values, read? x = some c := by
  induction values with
  | nil =>
      intro cs h c hc
      rw [readItems] at h
      cases h
      cases hc
  | cons value rest ih =>
      intro cs h c hc
      rw [readItems] at h
      obtain ⟨first, hfirst, h⟩ := Option.bind_eq_some_iff.mp h
      obtain ⟨others, hothers, ⟨⟩⟩ := Option.bind_eq_some_iff.mp h
      rcases List.mem_cons.mp hc with rfl | hc
      · exact ⟨value, List.mem_cons_self, hfirst⟩
      · obtain ⟨x, hx, hread⟩ := ih hothers c hc
        exact ⟨x, List.mem_cons_of_mem _ hx, hread⟩

/-- Each property is read from the member of its name. -/
theorem of_readMap {members : List (String × Json)} : ∀ {properties : List (String × Declaration)},
    readMap members = some properties →
      Keyed.keys properties = Keyed.keys members ∧
        ∀ p ∈ properties, ∃ m ∈ members, read? m.2 = some p.2 := by
  induction members with
  | nil =>
      intro properties h
      rw [readMap] at h
      cases h
      exact ⟨rfl, List.forall_mem_nil _⟩
  | cons m rest ih =>
      intro properties h
      rw [readMap] at h
      obtain ⟨c, hc, h⟩ := Option.bind_eq_some_iff.mp h
      obtain ⟨others, hothers, ⟨⟩⟩ := Option.bind_eq_some_iff.mp h
      obtain ⟨hkeys, hmem⟩ := ih hothers
      refine ⟨congrArg (m.1 :: ·) hkeys, fun p hp => ?_⟩
      rcases List.mem_cons.mp hp with rfl | hp
      · exact ⟨m, List.mem_cons_self, hc⟩
      · obtain ⟨m', hm', hread⟩ := hmem p hp
        exact ⟨m', List.mem_cons_of_mem _ hm', hread⟩

/-- The properties of a node and of all nodes below it are in order, whether conversion
comes to them or not. -/
structure InOrder (d : Declaration) : Prop where
  properties : Keyed.Ascending (d.properties.getD [])
  property : ∀ p ∈ d.properties.getD [], p.2.Ordered
  additional : ∀ c, d.additional = some (.described c) → c.Ordered
  item : ∀ part c, (part, c) ∈ d.itemParts → c.Ordered

theorem InOrder.ordered {d : Declaration} (h : d.InOrder) : d.Ordered := by
  refine ordered_iff.mpr ⟨h.properties, fun part c hc => ?_⟩
  rw [parts] at hc
  split at hc
  · rcases List.mem_append.mp hc with hc | hc
    · obtain ⟨name, -, hc⟩ := mem_propertyParts_iff.mp hc
      exact h.property _ hc
    · exact h.additional c (mem_additionalParts_iff.mp hc).2
  · split at hc
    · exact h.item part c hc
    · cases hc

/-- What is read from a value and from all that the value is made of is in order. -/
def ReadsInOrder (v : Json) : Prop :=
  ∀ x, x = v ∨ x ∈ v.children → ∀ d, read? x = some d → d.Ordered

theorem InOrder.empty : ({} : Declaration).InOrder where
  properties := List.Pairwise.nil
  property := by simp
  additional := by simp
  item := by simp [itemParts]

theorem InOrder.step {value : Json} {d d' : Declaration} (hvalue : value.Ordered)
    (hread : ReadsInOrder value) (hd : d.InOrder) (h : ReadStep value d d') : d'.InOrder := by
  cases h with
  | plain => exact ⟨hd.properties, hd.property, hd.additional, hd.item⟩
  | @properties members properties heq hmap =>
      subst heq
      obtain ⟨hkeys, hmem⟩ := of_readMap hmap
      refine ⟨?_, fun p hp => ?_, hd.additional, hd.item⟩
      · change (Keyed.keys properties).Pairwise (· < ·)
        rw [hkeys]
        exact hvalue.1
      · obtain ⟨m, hm, hp⟩ := hmem p hp
        exact hread _ (.inr (List.mem_map_of_mem hm)) _ hp
  | flag b => exact ⟨hd.properties, hd.property, by cases b <;> nofun, hd.item⟩
  | described hc =>
      refine ⟨hd.properties, hd.property, ?_, hd.item⟩
      rintro _ ⟨⟩
      exact hread _ (.inl rfl) _ hc
  | each hc =>
      refine ⟨hd.properties, hd.property, hd.additional, fun part c hpart => ?_⟩
      rcases mem_itemParts_iff.mp hpart with ⟨-, ⟨⟩⟩ | ⟨_, _, -, ⟨⟩, -⟩
      exact hread _ (.inl rfl) _ hc
  | positional heq hcs =>
      subst heq
      refine ⟨hd.properties, hd.property, hd.additional, fun part c hpart => ?_⟩
      rcases mem_itemParts_iff.mp hpart with ⟨-, ⟨⟩⟩ | ⟨cs, index, -, ⟨⟩, hc⟩
      obtain ⟨x, hx, hread'⟩ := mem_readItems hcs c (List.mem_of_getElem? hc)
      exact hread _ (.inr hx) _ hread'

theorem InOrder.run {members : List (String × Json)} : ∀ {d d' : Declaration},
    (∀ m ∈ members, m.2.Ordered ∧ ReadsInOrder m.2) → d.InOrder →
      readKeys members d = some d' → d'.InOrder := by
  induction members with
  | nil =>
      intro d d' _ hd h
      rw [readKeys] at h
      cases h
      exact hd
  | cons m rest ih =>
      intro d d' hmembers hd h
      rw [readKeys] at h
      obtain ⟨d₁, hkey, h⟩ := Option.bind_eq_some_iff.mp h
      obtain ⟨⟨hvalue, hread⟩, hrest⟩ := List.forall_mem_cons.mp hmembers
      exact ih hrest (hd.step hvalue hread (readStep_of_readKey hkey)) h

theorem readsInOrder (v : Json) : v.Ordered → ReadsInOrder v := by
  induction v using Json.induction_children with
  | h v ih =>
      rintro hv x (rfl | hx) d h
      · cases x with
        | obj members =>
            rw [read?] at h
            split at h
            · refine (InOrder.run (fun m hm => ?_) .empty h).ordered
              have hchild : m.2 ∈ (Json.obj members).children := List.mem_map_of_mem hm
              exact ⟨hv.of_mem_children hchild, ih _ hchild (hv.of_mem_children hchild)⟩
            · cases h
        | _ => simp [read?] at h
      · exact ih x hx (hv.of_mem_children hx) x (.inl rfl) d h

/-- The declaration that is read from a document is in order. -/
theorem ordered_of_read? {v : Json} {d : Declaration} (hv : v.Ordered)
    (h : read? v = some d) : d.Ordered :=
  readsInOrder v hv v (.inl rfl) d h

end Declaration

end ComposeLint
