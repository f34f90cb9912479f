import Mathlib.Data.List.Nodup
import ComposeLint.Proofs.Conformance
import ComposeLint.Proofs.FindingSites
import ComposeLint.Proofs.Positions
import ComposeLint.Proofs.SchemaParts
import ComposeLint.Proofs.UndeclaredFields

/-!
# Where faults are

The shape check decides conformance, and what it reports of a value that does not conform
is spread over the value: every fault is at a value that is there, or at a member that is
required of an object that is there and is missing from it, and no two are at the same
place (`Json.faults_verdict`).

The check of a node finds what is wrong with the node itself (`Json.Faulty`) and goes on
to its parts (`Json.CheckedPart`). The faults of a part are below the place of that part,
and parts at different places share none. What is left is one object: names that are
required are missing or there, and only those that are there are members. Both lists must
hold a name once for this, which is what the document and the schema are asked for.
-/

namespace ComposeLint

/-- No object of the schema requires a name twice. -/
def Schema.RequiresOnce (s : Schema) : Prop :=
  ∀ path shape, s.node? path = some (.object shape) → shape.required.Nodup

namespace Json

/-- The check of a value against a schema, at a path, comes to a value and its schema, at
a path below. -/
inductive Visits : Json → Schema → Path → Json → Schema → Path → Prop where
  | root (v : Json) (s : Schema) (path : Path) : Visits v s path v s path
  | part {v x y : Json} {s t u : Schema} {path site : Path} {segment : Segment}
      (hpart : CheckedPart v s path x t segment)
      (hrest : Visits x t (path ++ [segment]) y u site) : Visits v s path y u site

end Json

variable {s t u : Schema} {shape : ObjectShape Schema} {items : Items Schema}
  {path site : Path} {segment : Segment}

/-! ## Required names -/

namespace Schema

theorem RequiresOnce.of_part {part : SchemaPart} (h : s.RequiresOnce)
    (hpart : s.part? part = some t) : t.RequiresOnce := by
  intro path shape hnode
  refine h (part :: path) shape ?_
  rw [node?, hpart]
  exact hnode

theorem Converted.of_part {part : SchemaPart} (h : s.Converted)
    (hpart : s.part? part = some t) : t.Converted := by
  revert hpart
  rw [part?.eq_def]
  split
  · intro hpart
    exact h.of_property (Keyed.mem_of_get?_eq_some hpart)
  · intro hpart
    cases hpart
    exact h.of_additional rfl
  · intro hpart
    have hitem : (Items.each _).at? 0 = some t := hpart
    exact h.of_item hitem
  · intro hpart
    exact h.of_item hpart
  · intro hpart
    cases hpart

/-- Conversion makes a set of the names that are required. -/
theorem Converted.requiresOnce (h : s.Converted) : s.RequiresOnce := by
  intro path
  induction path generalizing s with
  | nil =>
      intro shape hnode
      cases hnode
      obtain ⟨d, hd⟩ := h
      rcases Declaration.cases_of_toSchema hd with
        ⟨_, _, _, -, -, ⟨⟩⟩ | ⟨_, -, ⟨⟩⟩ | ⟨⟨⟩⟩ | ⟨_, ⟨⟩, -⟩
      exact (Keyed.ascending_ofList _).nodup
  | cons part rest ih =>
      intro shape hnode
      obtain ⟨t, hpart, hrest⟩ := Option.bind_eq_some_iff.mp hnode
      exact ih (h.of_part hpart) shape hrest

theorem exists_part?_of_at? {index : Nat} (h : items.at? index = some t) :
    ∃ part, (array items).part? part = some t := by
  cases items with
  | any => cases h
  | each schema => exact ⟨.items, h⟩
  | positional schemas => exact ⟨.item index, h⟩

theorem exists_part?_of_ruleAt {name : String}
    (h : (shape.ruleAt path name).schema? = some t) :
    ∃ part, (object shape).part? part = some t := by
  rw [← shape.rule_eq_of_ruleAt_ne_free (MemberRule.ne_free_of_schema? h)] at h
  rcases MemberRule.schema?_eq_some_iff.mp h with hrule | hrule
  · exact ⟨.property name, rule_eq_declared_iff.mp hrule⟩
  · have hadditional := additional_of_rule_eq_described hrule
    obtain ⟨_, _, _, _, _⟩ := shape
    cases hadditional
    exact ⟨.additional, rfl⟩

end Schema

/-! ## One node -/

namespace Json

variable {v x y : Json} {f : ShapeFault}

theorem CheckedPart.step? (hv : v.Ordered) (h : v.CheckedPart s path x t segment) :
    v.step? segment = some x := by
  cases h with
  | item hvalue _ => exact hvalue
  | member hvalue _ => exact (Keyed.get?_eq_some_iff hv.1.nodup).mpr hvalue

theorem CheckedPart.requiresOnce (hs : s.RequiresOnce) (h : v.CheckedPart s path x t segment) :
    t.RequiresOnce := by
  cases h with
  | item _ hschema =>
      obtain ⟨part, hpart⟩ := Schema.exists_part?_of_at? hschema
      exact hs.of_part hpart
  | member _ hschema =>
      obtain ⟨part, hpart⟩ := Schema.exists_part?_of_ruleAt hschema
      exact hs.of_part hpart

/-! ## All nodes -/

/-- The check finds the faults of all nodes that it comes to. -/
theorem mem_faultsAt_iff (v : Json) : ∀ {s : Schema} {path : Path},
    f ∈ v.faultsAt s path ↔ ∃ x t site, v.Visits s path x t site ∧ x.Faulty t site f := by
  induction v using induction_children with
  | h v ih =>
      intro s path
      rw [mem_faultsAt_iff_faulty_or]
      constructor
      · rintro (hfaulty | ⟨x, t, segment, hpart, hf⟩)
        · exact ⟨v, s, path, .root v s path, hfaulty⟩
        · obtain ⟨y, u, site, hvisits, hfaulty⟩ := (ih x hpart.mem_children).mp hf
          exact ⟨y, u, site, .part hpart hvisits, hfaulty⟩
      · rintro ⟨y, u, site, hvisits, hfaulty⟩
        cases hvisits with
        | root => exact .inl hfaulty
        | part hpart hrest =>
            refine .inr ⟨_, _, _, hpart, ?_⟩
            exact (ih _ hpart.mem_children).mpr ⟨y, u, site, hrest, hfaulty⟩

/-- The check is at the value at the path that it is at. -/
theorem Visits.at? (h : v.Visits s path x t site) :
    v.Ordered → x.Ordered ∧ ∃ rest, site = path ++ rest ∧ v.at? rest = some x := by
  induction h with
  | root => exact fun hv => ⟨hv, [], (List.append_nil _).symm, rfl⟩
  | part hpart _ ih =>
      intro hv
      obtain ⟨hordered, rest, rfl, hrest⟩ := ih (hv.of_mem_children hpart.mem_children)
      refine ⟨hordered, _ :: rest, by rw [List.append_assoc]; rfl, ?_⟩
      rw [Json.at?, hpart.step? hv]
      exact hrest

theorem Visits.le (h : v.Visits s path x t site) : path <+: site := by
  induction h with
  | root => exact List.prefix_refl _
  | part _ _ ih => exact (List.prefix_append _ _).trans ih

theorem Faulty.le (h : v.Faulty s path f) : path <+: f.path := by
  cases h with
  | mismatch => exact List.prefix_refl _
  | missing | undeclared => exact Path.le_child _ _

theorem le_of_mem_faultsAt (h : f ∈ v.faultsAt s path) : path <+: f.path := by
  obtain ⟨x, t, site, hvisits, hfaulty⟩ := (mem_faultsAt_iff v).mp h
  exact hvisits.le.trans hfaulty.le

/-! ## One fault at a place -/

/-- Parts that are at different places have faults at different places. -/
theorem nodup_flatMap_faults {α : Type} {l : List α} {g : α → List ShapeFault}
    (path : Path) (segment : α → Segment) (hsegment : (l.map segment).Nodup)
    (hbelow : ∀ a ∈ l, ∀ f ∈ g a, path ++ [segment a] <+: f.path)
    (hg : ∀ a ∈ l, ((g a).map ShapeFault.path).Nodup) :
    ((l.flatMap g).map ShapeFault.path).Nodup := by
  rw [List.map_flatMap, List.nodup_flatMap]
  refine ⟨hg, (List.pairwise_map.mp hsegment).imp_of_mem fun {a b} ha hb hne => ?_⟩
  intro p hpa hpb
  obtain ⟨f, hf, rfl⟩ := List.mem_map.mp hpa
  obtain ⟨f', hf', heq⟩ := List.mem_map.mp hpb
  exact hne (Path.segment_unique (hbelow a ha f hf) (heq ▸ hbelow b hb f' hf'))

theorem nodup_faultsAt_arr {values : List Json}
    (h : ∀ x t segment, (arr values).CheckedPart (.array items) path x t segment →
      ((x.faultsAt t (path ++ [segment])).map ShapeFault.path).Nodup) :
    (((arr values).faultsAt (.array items) path).map ShapeFault.path).Nodup := by
  rw [faultsAt, itemFaults_eq_flatMap]
  refine nodup_flatMap_faults path (fun v => .index v.2) ?_ ?_ ?_
  · refine List.pairwise_map.mpr ((pairwise_zipIdx values).imp ?_)
    intro v w hlt heq
    exact Nat.ne_of_lt hlt (Segment.index.inj heq)
  · intro v _ f hf
    obtain ⟨schema, -, hf⟩ := Items.mem_faults_iff.mp hf
    exact le_of_mem_faultsAt hf
  · rintro ⟨value, index⟩ hvalue
    rw [List.mk_mem_zipIdx_iff_getElem?] at hvalue
    rw [Items.faults]
    split
    · next schema hschema => exact h value schema _ (.item hvalue hschema)
    · exact List.nodup_nil

/-- A name that is missing is not that of a member. -/
theorem nodup_faultsAt_obj {members : List (String × Json)} (hrequired : shape.required.Nodup)
    (hmembers : (Keyed.keys members).Nodup)
    (h : ∀ x t segment, (obj members).CheckedPart (.object shape) path x t segment →
      ((x.faultsAt t (path ++ [segment])).map ShapeFault.path).Nodup) :
    (((obj members).faultsAt (.object shape) path).map ShapeFault.path).Nodup := by
  have hbelow : ∀ m ∈ members, ∀ f ∈ (shape.ruleAt path m.1).faults m.2 (path.child m.1),
      path ++ [.field m.1] <+: f.path := by
    intro m _ f hf
    rcases MemberRule.mem_faults_iff.mp hf with ⟨schema, -, hf⟩ | ⟨-, rfl⟩
    · exact le_of_mem_faultsAt hf
    · exact List.prefix_refl _
  rw [faultsAt, memberFaults_eq_flatMap, List.map_append, List.nodup_append]
  refine ⟨?_, ?_, ?_⟩
  · have hinjective : Function.Injective path.child := by
      intro a b hab
      simpa [Path.child] using hab
    rw [ObjectShape.missingFaults, List.map_map]
    exact (hrequired.filter _).map hinjective
  · refine nodup_flatMap_faults path (fun m => .field m.1) ?_ hbelow ?_
    · have hsegment := hmembers.map fun a b (hab : Segment.field a = .field b) =>
        Segment.field.inj hab
      rw [Keyed.keys, List.map_map] at hsegment
      exact hsegment
    · rintro ⟨name, value⟩ hvalue
      cases hrule : shape.ruleAt path name with
      | declared schema | described schema =>
          exact h value schema _ (.member hvalue (by rw [hrule]; rfl))
      | free => exact List.nodup_nil
      | forbidden => exact List.nodup_singleton _
  · intro p hp q hq heq
    obtain ⟨f, hf, rfl⟩ := List.mem_map.mp hp
    obtain ⟨name, -, hmissing, rfl⟩ := ObjectShape.mem_missingFaults_iff.mp hf
    obtain ⟨f', hf', rfl⟩ := List.mem_map.mp hq
    obtain ⟨⟨other, value⟩, hvalue, hf'⟩ := List.mem_flatMap.mp hf'
    have hplace := hbelow _ hvalue f' hf'
    rw [← heq] at hplace
    have hname : other = name := Segment.field.inj (Path.segment_unique hplace (List.prefix_refl _))
    rw [hname] at hvalue
    rw [Keyed.contains_of_mem hvalue] at hmissing
    cases hmissing

/-- The faults of a value are at different places. -/
theorem nodup_faultsAt (v : Json) : v.Ordered → ∀ {s : Schema} {path : Path}, s.RequiresOnce →
    ((v.faultsAt s path).map ShapeFault.path).Nodup := by
  induction v using induction_children with
  | h v ih =>
      intro hv s path hs
      have hparts : ∀ x t segment, v.CheckedPart s path x t segment →
          ((x.faultsAt t (path ++ [segment])).map ShapeFault.path).Nodup := by
        intro x t segment hpart
        exact ih x hpart.mem_children (hv.of_mem_children hpart.mem_children)
          (hpart.requiresOnce hs)
      by_cases hfits : ∀ type, s.type? = some type → v.type.fits type = true
      · cases hfaults : v.faultsAt s path with
        | nil => exact List.nodup_nil
        | cons f rest =>
            have hf : f ∈ v.faultsAt s path := hfaults ▸ List.mem_cons_self
            rw [← hfaults]
            rcases cases_of_faultsAt_ne_nil hfits hf with
              ⟨values, items, rfl, rfl⟩ | ⟨members, shape, rfl, rfl⟩
            · exact nodup_faultsAt_arr hparts
            · exact nodup_faultsAt_obj (hs [] shape rfl) hv.1.nodup hparts
      · obtain ⟨type, htype, hfits⟩ :
            ∃ type, s.type? = some type ∧ v.type.fits type = false := by
          simpa using hfits
        rw [faultsAt_eq_of_not_fits htype hfits]
        exact List.nodup_singleton _

/-! ## The verdict -/

/-- The fault is at a value of the document, or at a member that an object of the
document must have by its schema and has not. -/
inductive Located (v : Json) (s : Schema) (f : ShapeFault) : Prop where
  | value {x : Json} (h : v.at? f.path = some x)
  | missing {site : Path} {name : String} {members : List (String × Json)}
      {shape : ObjectShape Schema} (hfault : f = ⟨site.child name, .missing⟩)
      (hobject : v.at? site = some (.obj members))
      (hschema : v.Visits s [] (.obj members) (.object shape) site)
      (hrequired : name ∈ shape.required) (hmissing : Keyed.contains name members = false)

theorem located_of_mem_faults (hv : v.Ordered) (hf : f ∈ v.faults s) : Located v s f := by
  obtain ⟨x, t, site, hvisits, hfaulty⟩ := (mem_faultsAt_iff v).mp hf
  obtain ⟨hordered, rest, hsite, hat⟩ := hvisits.at? hv
  obtain rfl : site = rest := hsite
  cases hfaulty with
  | mismatch => exact .value hat
  | missing hrequired hmissing => exact .missing rfl hat hvisits hrequired hmissing
  | @undeclared _ _ _ name value hvalue _ =>
      have hmember := (Keyed.get?_eq_some_iff hordered.1.nodup).mpr hvalue
      have hplace : v.at? (site.child name) = some value := by
        rw [Path.child, at?_append, hat, Option.bind_some, Json.at?, step?, member?, hmember]
        rfl
      exact .value hplace

/-- The shape check finds nothing wrong with a value if the value conforms to the schema.
What it finds otherwise is at values of the document or at members that are missing from
its objects, and each is at a place of its own. -/
theorem faults_verdict (v : Json) (s : Schema) :
    (v.faults s = [] ↔ Conforms true s v) ∧
      (v.Ordered → (∀ f ∈ v.faults s, Located v s f) ∧
        (s.RequiresOnce → ((v.faults s).map ShapeFault.path).Nodup)) := by
  refine ⟨faultsAt_eq_nil_iff_conforms v, fun hv => ⟨?_, ?_⟩⟩
  · intro f hf
    exact located_of_mem_faults hv hf
  · intro hs
    exact nodup_faultsAt v hv hs

/-- A volume has a size and may have ports, which are whole numbers. -/
def volume : Declaration :=
  { type := some "object"
    properties := some
      [("ports", { type := some "array", items := .each { type := some "integer" } }),
        ("size", { type := some "integer" })]
    required := ["size"] }

/-- The size is missing, the second port is a text, and an owner is not declared. -/
def brokenVolume : Json :=
  .obj [("owner", .str "me"), ("ports", .arr [.int 80, .str "http"])]

theorem faults_verdict_brokenVolume :
    ∃ s, volume.toSchema = .ok s ∧ brokenVolume.Ordered ∧ s.RequiresOnce ∧
      ¬ Conforms true s brokenVolume ∧
      (brokenVolume.faults s).map ShapeFault.path =
        [[.field "size"], [.field "owner"], [.field "ports", .index 1]] ∧
      (∀ f ∈ brokenVolume.faults s, Located brokenVolume s f) ∧
      ((brokenVolume.faults s).map ShapeFault.path).Nodup := by
  have hv : brokenVolume.Ordered := by
    simp only [brokenVolume, Ordered, OrderedItems, OrderedMembers, Keyed.Ascending, Keyed.keys]
    decide
  obtain ⟨s, hs⟩ : ∃ s, volume.toSchema = .ok s := ⟨_, rfl⟩
  have honce : s.RequiresOnce := Schema.Converted.requiresOnce ⟨volume, hs⟩
  have hpaths : (brokenVolume.faults s).map ShapeFault.path =
      [[.field "size"], [.field "owner"], [.field "ports", .index 1]] := by
    cases hs
    rfl
  obtain ⟨hiff, hplaces⟩ := faults_verdict brokenVolume s
  obtain ⟨hlocated, hnodup⟩ := hplaces hv
  refine ⟨s, hs, hv, honce, ?_, hpaths, hlocated, hnodup honce⟩
  intro hconforms
  rw [hiff.mpr hconforms] at hpaths
  cases hpaths

end Json

end ComposeLint
