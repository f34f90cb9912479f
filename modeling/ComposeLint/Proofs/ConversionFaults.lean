import Mathlib.Data.List.Nodup
import ComposeLint.Proofs.Positions
import ComposeLint.Proofs.ReadDeclarations

/-!
# Declarations that do not convert

Conversion succeeds if every node that it comes to has a type that exists or none, and
otherwise fails at the first that has not, in depth-first order: `toSchema_outcome`. The
error then spells the path from the root to that node.

Depth-first order is the lexicographic order of paths, over an order of the parts of one
node: properties by name, then additional members, and items by position. Conversion
takes the parts of a node as they are listed, and they are listed in that order if the
properties are (`pairwise_parts`). The first fault of a node is then its own, or the
first one of its first part that has any; all faults of the parts after it come later.
-/

namespace ComposeLint

namespace SchemaPart

/-- The order of the parts of one node. -/
def Before : SchemaPart → SchemaPart → Prop
  | property a, property b => a < b
  | property _, additional => True
  | item i, item j => i < j
  | _, _ => False

theorem Before.asymm {a b : SchemaPart} (h : a.Before b) : ¬ b.Before a := by
  cases a <;> cases b <;> simp only [Before] at h ⊢
  · exact Std.Asymm.asymm _ _ h
  · exact id
  · exact Nat.lt_asymm h

end SchemaPart

namespace SchemaPath

/-- Depth-first order: a node before all below it, and all below a part of a node before
all below the later parts. -/
def Precedes : SchemaPath → SchemaPath → Prop := List.Lex SchemaPart.Before

/-- The error of the node at a path, as an error of the root. -/
def wrap (path : SchemaPath) (e : SchemaError) : SchemaError := path.foldr SchemaPart.wrap e

end SchemaPath

namespace Declaration

/-- The node at the path is the first, in depth-first order, whose type does not exist. -/
structure FirstFault (d : Declaration) (path : SchemaPath) (name : String) : Prop where
  visited : ∃ node, d.Visits path node ∧ node.type = some name
  unknown : ∀ type : JsonType, type.name ≠ name
  first : ∀ other node, d.Visits other node → ¬ node.TypeKnown →
    path = other ∨ SchemaPath.Precedes path other

variable {d c : Declaration} {s : Schema}

/-- Conversion succeeds if all nodes that it comes to have a type that exists or none. -/
theorem exists_toSchema_iff_visits (d : Declaration) :
    (∃ s, d.toSchema = .ok s) ↔ ∀ path node, d.Visits path node → node.TypeKnown := by
  induction d using induction_parts with
  | h d ih =>
      rw [exists_toSchema_iff]
      constructor
      · rintro ⟨hroot, hparts⟩ path node hnode
        cases hnode with
        | root => exact hroot
        | part hpart hrest => exact (ih _ _ hpart).mp (hparts _ _ hpart) _ _ hrest
      · intro h
        refine ⟨h [] d (.root d), fun part c hpart => (ih part c hpart).mpr ?_⟩
        exact fun path node hnode => h _ _ (.part hpart hnode)

/-- All that a converted node is made of converts. -/
theorem Visits.exists_toSchema {path : SchemaPath} {node : Declaration}
    (h : d.Visits path node) : (∃ s, d.toSchema = .ok s) → ∃ s, node.toSchema = .ok s := by
  induction h with
  | root => exact id
  | part hpart _ ih => exact fun hd => ih ((exists_toSchema_iff.mp hd).2 _ _ hpart)

/-- The parts of a node are listed in their order. -/
theorem pairwise_parts (h : Keyed.Ascending (d.properties.getD [])) :
    d.parts.Pairwise fun p q => p.1.Before q.1 := by
  have hproperties : d.propertyParts.Pairwise fun p q => p.1.Before q.1 := by
    rw [Keyed.Ascending, Keyed.keys, List.pairwise_map] at h
    exact List.pairwise_map.mpr h
  rw [parts]
  split
  · refine List.pairwise_append.mpr ⟨hproperties, ?_, ?_⟩
    · rw [additionalParts]
      split
      · exact List.pairwise_singleton _ _
      · exact List.Pairwise.nil
    · rintro ⟨_, _⟩ hp ⟨_, _⟩ hq
      obtain ⟨_, rfl, -⟩ := mem_propertyParts_iff.mp hp
      obtain ⟨rfl, -⟩ := mem_additionalParts_iff.mp hq
      trivial
  · split
    · rw [itemParts]
      split
      · exact List.Pairwise.nil
      · exact List.pairwise_singleton _ _
      · next cs _ => exact List.pairwise_map.mpr (pairwise_zipIdx cs)
    · exact List.Pairwise.nil

/-- There is one node at a path. -/
theorem Visits.unique {path : SchemaPath} : ∀ {d node node' : Declaration}, d.Ordered →
    d.Visits path node → d.Visits path node' → node = node' := by
  induction path with
  | nil =>
      rintro d _ _ - ⟨⟩ ⟨⟩
      rfl
  | cons part rest ih =>
      rintro d node node' hd (_ | ⟨hpart, hrest⟩) (_ | ⟨hpart', hrest'⟩)
      obtain ⟨hproperties, hparts⟩ := ordered_iff.mp hd
      have hnodup : (d.parts.map Prod.fst).Nodup := by
        refine List.pairwise_map.mpr ((pairwise_parts hproperties).imp ?_)
        intro p q hbefore heq
        exact hbefore.asymm (heq ▸ hbefore)
      cases List.inj_on_of_nodup_map hnodup hpart hpart' rfl
      exact ih (hparts _ _ hpart) hrest hrest'

/-- The first fault of the first part that has one is the first of the node. -/
theorem FirstFault.part {before after : List (SchemaPart × Declaration)} {part : SchemaPart}
    {path : SchemaPath} {name : String} (hroot : d.TypeKnown)
    (hd : Keyed.Ascending (d.properties.getD []))
    (hparts : d.parts = before ++ (part, c) :: after)
    (hbefore : ∀ q ∈ before, ∃ s, q.2.toSchema = .ok s) (hc : c.FirstFault path name) :
    d.FirstFault (part :: path) name := by
  obtain ⟨⟨node, hnode, htype⟩, hunknown, hfirst⟩ := hc
  have hmem : (part, c) ∈ d.parts := by simp [hparts]
  refine ⟨⟨node, .part hmem hnode, htype⟩, hunknown, fun other node' hnode' hfault => ?_⟩
  cases hnode' with
  | root => exact absurd hroot hfault
  | @part _ c' _ part' path' hpart' hrest =>
      rw [hparts, List.mem_append, List.mem_cons] at hpart'
      rcases hpart' with hearlier | ⟨⟨⟩⟩ | hlater
      · have hknown := (exists_toSchema_iff_visits c').mp (hbefore _ hearlier)
        exact absurd (hknown _ _ hrest) hfault
      · rcases hfirst _ _ hrest hfault with rfl | hprecedes
        · exact .inl rfl
        · exact .inr (.cons hprecedes)
      · have hpairwise := pairwise_parts hd
        rw [hparts, List.pairwise_append, List.pairwise_cons] at hpairwise
        exact .inr (.rel (hpairwise.2.1.1 _ hlater))

/-- There is one first fault. -/
theorem FirstFault.unique {path path' : SchemaPath} {name name' : String} (hd : d.Ordered)
    (h : d.FirstFault path name) (h' : d.FirstFault path' name') :
    path = path' ∧ name = name' := by
  obtain ⟨⟨node, hnode, htype⟩, hunknown, hfirst⟩ := h
  obtain ⟨⟨node', hnode', htype'⟩, hunknown', hfirst'⟩ := h'
  have hfault : ¬ node.TypeKnown := fun hknown =>
    (hknown name htype).elim hunknown
  have hfault' : ¬ node'.TypeKnown := fun hknown =>
    (hknown name' htype').elim hunknown'
  obtain rfl : path = path' := by
    rcases hfirst _ _ hnode' hfault' with heq | hlt
    · exact heq
    · rcases hfirst' _ _ hnode hfault with heq | hlt'
      · exact heq.symm
      · exact absurd hlt' (List.lex_asymm SchemaPart.Before.asymm hlt)
  obtain rfl := hnode.unique hd hnode'
  exact ⟨rfl, Option.some.inj (htype.symm.trans htype')⟩

theorem firstFault_of_toSchema (d : Declaration) :
    ∀ {e : SchemaError}, d.Ordered → d.toSchema = .error e →
      ∃ path name, d.FirstFault path name ∧ e = SchemaPath.wrap path (.unknownType name) := by
  induction d using induction_parts with
  | h d ih =>
      intro e hd h
      obtain ⟨hproperties, hparts⟩ := ordered_iff.mp hd
      rcases toSchema_eq_error_iff.mp h with
        h | ⟨hroot, before, p, after, cause, heq, hbefore, hcause, rfl⟩
      · obtain ⟨name, htype, hunknown, rfl⟩ := nodeKind_eq_error_iff.mp h
        refine ⟨[], name, ⟨⟨d, .root d, htype⟩, hunknown, fun other node _ _ => ?_⟩, rfl⟩
        cases other with
        | nil => exact .inl rfl
        | cons part path => exact .inr .nil
      · have hmem : p ∈ d.parts := by simp [heq]
        obtain ⟨path, name, hfirst, rfl⟩ := ih _ _ hmem (hparts _ _ hmem) hcause
        exact ⟨p.1 :: path, name, hfirst.part hroot hproperties heq hbefore, rfl⟩

/-- Conversion fails at the first node whose type does not exist. -/
theorem toSchema_eq_error_iff_firstFault {e : SchemaError} (hd : d.Ordered) :
    d.toSchema = .error e ↔
      ∃ path name, d.FirstFault path name ∧ e = SchemaPath.wrap path (.unknownType name) := by
  refine ⟨firstFault_of_toSchema d hd, ?_⟩
  rintro ⟨path, name, hfirst, rfl⟩
  obtain ⟨node, hnode, htype⟩ := hfirst.visited
  cases h : d.toSchema with
  | ok s =>
      obtain ⟨type, hknown⟩ := (exists_toSchema_iff_visits d).mp ⟨s, h⟩ _ _ hnode name htype
      exact absurd hknown (hfirst.unknown type)
  | error e =>
      obtain ⟨path', name', hfirst', rfl⟩ := firstFault_of_toSchema d hd h
      obtain ⟨rfl, rfl⟩ := hfirst.unique hd hfirst'
      rfl

/-- The nodes of a converted schema are what the nodes that conversion comes to are
converted to. -/
theorem node?_of_toSchema {path : SchemaPath} : ∀ {d : Declaration} {s s' : Schema},
    d.Ordered → d.toSchema = .ok s →
      (s.node? path = some s' ↔ ∃ node, d.Visits path node ∧ node.toSchema = .ok s') := by
  induction path with
  | nil =>
      intro d s s' _ h
      rw [Schema.node?]
      constructor
      · rintro ⟨⟩
        exact ⟨d, .root d, h⟩
      · rintro ⟨_, ⟨⟩, hs'⟩
        rw [h] at hs'
        cases hs'
        rfl
  | cons part rest ih =>
      intro d s s' hd h
      obtain ⟨hproperties, hparts⟩ := ordered_iff.mp hd
      rw [Schema.node?, Option.bind_eq_some_iff]
      simp only [part?_of_toSchema hproperties h]
      constructor
      · rintro ⟨s'', ⟨c, hc, hs''⟩, hrest⟩
        obtain ⟨node, hnode, hs'⟩ := (ih (hparts _ _ hc) hs'').mp hrest
        exact ⟨node, .part hc hnode, hs'⟩
      · rintro ⟨node, _ | ⟨hc, hrest⟩, hs'⟩
        obtain ⟨s'', hs''⟩ := (exists_toSchema_iff.mp ⟨s, h⟩).2 part _ hc
        exact ⟨s'', ⟨_, hc, hs''⟩, (ih (hparts _ _ hc) hs'').mpr ⟨node, hrest, hs'⟩⟩

/-- Conversion succeeds if every node that it comes to has a type that exists or none. It
fails at the first of them that has not, with an error that spells the path to it. Where
it succeeds, the nodes of the schema are the nodes that conversion came to, each of the
type that it declares. -/
theorem toSchema_outcome {d : Declaration} (hd : d.Ordered) :
    ((∃ s, d.toSchema = .ok s) ↔ ∀ path node, d.Visits path node → node.TypeKnown) ∧
      (∀ e, d.toSchema = .error e ↔
        ∃ path name, d.FirstFault path name ∧
          e = SchemaPath.wrap path (.unknownType name)) ∧
      ∀ s, d.toSchema = .ok s →
        (∀ path node, d.Visits path node →
          ∃ s', s.node? path = some s' ∧ s'.type?.map JsonType.name = node.type) ∧
        ∀ path s', s.node? path = some s' →
          ∃ node, d.Visits path node ∧ s'.type?.map JsonType.name = node.type := by
  refine ⟨exists_toSchema_iff_visits d, fun e => toSchema_eq_error_iff_firstFault hd,
    fun s hs => ⟨fun path node hnode => ?_, fun path s' hs' => ?_⟩⟩
  · obtain ⟨s', hs'⟩ := hnode.exists_toSchema ⟨s, hs⟩
    exact ⟨s', (node?_of_toSchema hd hs).mpr ⟨node, hnode, hs'⟩, type?_of_toSchema hs'⟩
  · obtain ⟨node, hnode, hconverted⟩ := (node?_of_toSchema hd hs).mp hs'
    exact ⟨node, hnode, type?_of_toSchema hconverted⟩

/-- A definition with two faults, at its limits and at its size, and with another one
below a text, to which conversion never comes. -/
def misdeclared : Json :=
  .obj
    [("properties", .obj
        [("limits", .obj
            [("additionalProperties", .obj
                [("items", .arr [.obj [], .obj [("type", .str "decimal")]]),
                  ("type", .str "array")])]),
          ("name", .obj
            [("properties", .obj [("first", .obj [("type", .str "text")])]),
              ("type", .str "string")]),
          ("size", .obj [("type", .str "int")])]),
      ("type", .str "object")]

/-- The fault that is reported is that of the limits. -/
theorem toSchema_outcome_misdeclared :
    ∃ d, read? misdeclared = some d ∧ d.Ordered ∧
      ∃ path name, d.FirstFault path name ∧
        SchemaError.property "limits" (.additionalProperties (.items (.unknownType "decimal"))) =
          SchemaPath.wrap path (.unknownType name) := by
  have hv : misdeclared.Ordered := by
    simp only [misdeclared, Json.Ordered, Json.OrderedItems, Json.OrderedMembers,
      Keyed.Ascending, Keyed.keys]
    decide
  have hread : (read? misdeclared).map toSchema = some (.error
      (.property "limits" (.additionalProperties (.items (.unknownType "decimal"))))) := by
    cbv
  obtain ⟨d, hd, herror⟩ := Option.map_eq_some_iff.mp hread
  have hordered := ordered_of_read? hv hd
  exact ⟨d, hd, hordered, ((toSchema_outcome hordered).2.1 _).mp herror⟩

end Declaration

end ComposeLint
