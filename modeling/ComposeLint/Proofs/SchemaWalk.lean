import ComposeLint.Proofs.ShapeFaults
import ComposeLint.Schema.Resolve

/-!
# What a resolved path says of the values of a schema

The resolver walks a path through a schema, the shape check walks a value
through the same schema, and neither knows of the other. They meet one step at
a time: where the resolver goes into a schema, the shape check has checked the
value there against that very schema. So a value without faults keeps having
none along the path, and what the resolver says of the end of the path is true
of the value there: its type (`type_fits_of_walk`) and, where it is
mandatory, that it exists (`exists_at?_of_walk_required`).

The two do part in one place, at the root, over the members that every object
has. The resolver takes `metadata` out of the schema altogether, and the shape
check lets the three pass if they are not declared, while the resolver still
sends them to the schema of additional members.
-/

namespace ComposeLint

namespace Schema

/-- Whether the schema declares a property of that name. -/
def declares (s : Schema) (name : String) : Bool :=
  match s with
  | object shape => Keyed.contains name shape.properties
  | _ => false

/-- Whether the first member of a path is not followed through the schema, or not
checked against it: `metadata`, or an undeclared `apiVersion` or `kind`. -/
def leavesRoot (s : Schema) : Path → Bool
  | .field name :: _ =>
    name = "metadata" || (name = "apiVersion" || name = "kind") && !s.declares name
  | _ => false

/-- Whether the node describes objects without declaring the type. -/
def isUntypedObject : Schema → Bool
  | object shape => !shape.typed
  | _ => false

/-- Whether every object that the path passes is declared to be one. -/
def typedAlong (s : Schema) : Path → Bool
  | [] => true
  | segment :: rest =>
    !s.isUntypedObject &&
      match s.step segment with
      | .ok (.into schema _) => schema.typedAlong rest
      | _ => true

/-! ## One step -/

/-- A step into a schema is a declared property, an additional member or an item. -/
theorem step_into {s s' : Schema} {segment : Segment} {required : Bool}
    (h : s.step segment = .ok (.into s' required)) :
    (∃ shape name, s = object shape ∧ segment = .field name ∧
      ((shape.rule name = .declared s' ∧ required = shape.requires name) ∨
        (shape.rule name = .described s' ∧ required = false))) ∨
    (∃ items index, s = array items ∧ segment = .index index ∧
      items.at? index = some s' ∧ required = false) := by
  cases segment with
  | field name =>
      left
      cases s with
      | object shape =>
          refine ⟨shape, name, rfl, rfl, ?_⟩
          simp only [step] at h
          split at h
          · next hrule => cases h; exact .inl ⟨hrule, rfl⟩
          · next hrule => cases h; exact .inr ⟨hrule, rfl⟩
          · cases h
          · cases h
      | _ => cases h
  | index n =>
      right
      cases s with
      | array items =>
          refine ⟨items, n, rfl, rfl, ?_⟩
          cases items with
          | any => cases h
          | each schema => cases h; exact ⟨rfl, rfl⟩
          | positional schemas =>
              simp only [step] at h
              split at h
              · next hitem => cases h; exact ⟨hitem, rfl⟩
              · cases h
      | _ => cases h

theorem rule_eq_declared_iff {shape : ObjectShape Schema} {name : String}
    {s : Schema} :
    shape.rule name = .declared s ↔ Keyed.get? name shape.properties = some s := by
  rw [ObjectShape.rule]
  cases Keyed.get? name shape.properties with
  | some declared => simp
  | none =>
      simp only [reduceCtorEq, iff_false]
      split
      · simp
      · split <;> simp

theorem requires_iff {shape : ObjectShape Schema} {name : String} :
    shape.requires name = true ↔ name ∈ shape.required :=
  List.contains_iff_mem

/-- A step is mandatory if it goes to a declared property that is required. -/
theorem step_eq_into_true_iff {s s' : Schema} {segment : Segment} :
    s.step segment = .ok (.into s' true) ↔
      ∃ shape name, s = object shape ∧ segment = .field name ∧
        Keyed.get? name shape.properties = some s' ∧ name ∈ shape.required := by
  constructor
  · intro h
    rcases step_into h with ⟨shape, name, rfl, rfl, hrule⟩ | ⟨_, _, _, _, _, hrequired⟩
    · rcases hrule with ⟨hrule, hrequired⟩ | ⟨-, hrequired⟩
      · exact ⟨shape, name, rfl, rfl, rule_eq_declared_iff.mp hrule,
          requires_iff.mp hrequired.symm⟩
      · cases hrequired
    · cases hrequired
  · rintro ⟨shape, name, rfl, rfl, hdeclared, hrequired⟩
    rw [step, rule_eq_declared_iff.mpr hdeclared]
    dsimp only
    rw [requires_iff.mpr hrequired]

theorem declares_of_get? {shape : ObjectShape Schema} {name : String} {s : Schema}
    (h : Keyed.get? name shape.properties = some s) :
    (object shape).declares name = true := by
  rw [declares, Keyed.contains, h]
  rfl

/-- Away from the members that every object has, the shape check goes by the
same rule as the resolver. -/
theorem ruleAt_eq_rule {shape : ObjectShape Schema} {path : Path} {name : String}
    (h : path = [] → name ∈ ObjectShape.implicitRootMembers →
      (object shape).declares name = true) :
    shape.ruleAt path name = shape.rule name := by
  rw [ObjectShape.ruleAt]
  split
  · next hrule => exact hrule.symm
  · next hrule =>
      split
      · next himplicit =>
          have hdecl := h himplicit.1 himplicit.2
          rw [declares, Keyed.contains, Option.isSome_iff_exists] at hdecl
          obtain ⟨s, hs⟩ := hdecl
          exact absurd (rule_eq_declared_iff.mpr hs) (hrule s)
      · rfl

/-- A path that stays below the root begins with none of those members undeclared. -/
theorem declares_of_leavesRoot {s : Schema} {p : Path} (h : s.leavesRoot p = false) :
    ∀ name ∈ ObjectShape.implicitRootMembers,
      p.head? = some (.field name) → s.declares name = true := by
  intro name hname hhead
  obtain ⟨rest, rfl⟩ := List.head?_eq_some_iff.mp hhead
  simp only [leavesRoot, Bool.or_eq_false_iff, decide_eq_false_iff_not] at h
  obtain ⟨hmetadata, hdeclared⟩ := h
  simp only [ObjectShape.implicitRootMembers, List.mem_cons, List.not_mem_nil,
    or_false] at hname
  rcases hname with rfl | rfl | rfl
  · simpa using hdeclared
  · simpa using hdeclared
  · exact absurd rfl hmetadata

/-! ## Walks that end with an answer -/

/-- A walk that tells anything of the field went into a schema at every step. -/
theorem walk_cons_eq_ok {s : Schema} {required : Bool} {segment : Segment}
    {rest : Path} {field : Resolution}
    (h : s.walk required (segment :: rest) = .ok field) (hne : field ≠ {}) :
    ∃ s' mandatory, s.step segment = .ok (.into s' mandatory) ∧
      s'.walk (required && mandatory) rest = .ok field := by
  rw [walk] at h
  split at h
  · cases h
  · injection h with h
    exact absurd h.symm hne
  · next s' mandatory hstep => exact ⟨s', mandatory, hstep, h⟩

/-- A field is mandatory only where all before it was. -/
theorem required_of_walk {path : Path} : ∀ {s : Schema} {required : Bool}
    {field : Resolution}, s.walk required path = .ok field →
      field.required = true → required = true := by
  induction path with
  | nil =>
      intro s required field h hfield
      injection h with h
      subst h
      exact hfield
  | cons segment rest ih =>
      intro s required field h hfield
      have hne : field ≠ {} := by rintro rfl; cases hfield
      obtain ⟨s', mandatory, -, hrest⟩ := walk_cons_eq_ok h hne
      have hboth := ih hrest hfield
      rw [Bool.and_eq_true] at hboth
      exact hboth.1

/-- No field of the metadata is mandatory. -/
theorem required_of_walk_metadata {path : Path} {field : Resolution}
    (h : metadata.walk (!path.isEmpty) path = .ok field) :
    field.required = false := by
  rw [← Bool.not_eq_true]
  intro hfield
  match path with
  | [] => exact absurd (required_of_walk h hfield) (by decide)
  | segment :: rest =>
      have hne : field ≠ {} := by rintro rfl; cases hfield
      obtain ⟨s', mandatory, hstep, hrest⟩ := walk_cons_eq_ok h hne
      obtain ⟨-, rfl⟩ := Bool.and_eq_true_iff.mp (required_of_walk hrest hfield)
      obtain ⟨shape, name, hshape, -, -, hrequired⟩ := step_eq_into_true_iff.mp hstep
      cases hshape
      cases hrequired

/-- A path that does not begin with the metadata is walked through the schema itself. -/
theorem resolve_eq_walk {s : Schema} {path : Path} (hne : path ≠ [])
    (hmetadata : path.head? ≠ some (.field "metadata")) :
    s.resolve path = s.walk true path := by
  rw [resolve.eq_def]
  split
  · exact absurd rfl hne
  · exact absurd rfl hmetadata
  · rfl

/-- An answer comes from a walk through the schema itself, unless the path begins
with the metadata. -/
theorem walk_of_resolve {s : Schema} {path : Path} {field : Resolution}
    (h : s.resolve path = .ok field) (hne : field ≠ {}) :
    (s.walk true path = .ok field ∧ path ≠ []) ∨
      ∃ rest, path = .field "metadata" :: rest ∧
        metadata.walk (!rest.isEmpty) rest = .ok field := by
  rw [resolve.eq_def] at h
  split at h
  · injection h with h
    exact absurd h.symm hne
  · next rest => exact .inr ⟨rest, rfl, h⟩
  · next hnil _ => exact .inl ⟨h, hnil⟩

theorem walk_of_resolve_of_leavesRoot {s : Schema} {path : Path}
    {field : Resolution} (hroot : s.leavesRoot path = false)
    (h : s.resolve path = .ok field) (hne : field ≠ {}) :
    s.walk true path = .ok field := by
  rcases walk_of_resolve h hne with ⟨hwalk, -⟩ | ⟨rest, rfl, -⟩
  · exact hwalk
  · cases hroot

/-- A workload of a mandatory size that may limit its containers, by name. -/
def workload : Schema :=
  let limits := object { additional := .described (scalar .number), typed := true }
  let spec :=
    object
      { properties := [("limits", array (.each limits)), ("size", scalar .integer)]
        required := ["size"]
        typed := true }
  object { properties := [("spec", spec)], required := ["spec"], typed := true }

end Schema

namespace Json

/-- Where the resolver steps into a schema, the shape check has checked the value
there against it. -/
theorem faultsAt_of_step {v x : Json} {s s' : Schema} {path : Path}
    {segment : Segment} {required : Bool} (h : v.faultsAt s path = [])
    (hstep : s.step segment = .ok (.into s' required))
    (hx : v.step? segment = some x)
    (hroot : path = [] → ∀ name ∈ ObjectShape.implicitRootMembers,
      segment = .field name → s.declares name = true) :
    x.faultsAt s' (path ++ [segment]) = [] := by
  rcases Schema.step_into hstep with ⟨shape, name, rfl, rfl, hrule⟩ |
    ⟨items, index, rfl, rfl, hitem, -⟩
  · cases v with
    | obj members =>
        have hmember := faults_of_member h hx
        rw [Schema.ruleAt_eq_rule fun hp hn => hroot hp name hn rfl] at hmember
        rcases hrule with ⟨hrule, -⟩ | ⟨hrule, -⟩ <;> rw [hrule] at hmember <;>
          exact hmember
    | _ => cases hx
  · obtain ⟨values, rfl⟩ := exists_items_of_faultsAt_array h
    exact faultsAt_item h hx hitem

/-! ## Whole paths -/

/-- The type at the end of a walk is that of the value there. -/
theorem type_fits_of_walk {p : Path} : ∀ {v x : Json} {s : Schema} {path : Path}
    {required mandatory : Bool} {type : JsonType}, v.faultsAt s path = [] →
      (path = [] → ∀ name ∈ ObjectShape.implicitRootMembers,
        p.head? = some (.field name) → s.declares name = true) →
      s.walk required p = .ok ⟨some type, mandatory⟩ → v.at? p = some x →
      x.type.fits type = true := by
  induction p with
  | nil =>
      intro v x s path required mandatory type h _ hwalk hx
      injection hx with hx
      subst hx
      injection hwalk with hwalk
      injection hwalk with htype _
      exact type_fits_of_faultsAt h htype
  | cons segment rest ih =>
      intro v x s path required mandatory type h hroot hwalk hx
      obtain ⟨s', _, hstep, hrest⟩ :=
        Schema.walk_cons_eq_ok hwalk (by simp)
      rw [at?, Option.bind_eq_some_iff] at hx
      obtain ⟨v', hv', hx⟩ := hx
      refine ih (faultsAt_of_step h hstep hv' ?_) ?_ hrest hx
      · intro hp name hname hsegment
        exact hroot hp name hname (by rw [hsegment, List.head?_cons])
      · intro hp
        simp at hp

/-- A value of the schema of workloads. -/
def workload : Json :=
  .obj
    [("kind", .str "Workload"),
      ("spec", .obj [("limits", .arr [.obj [("cpu", .int 2)]]), ("size", .int 3)])]

/-- A limit of the first container of a workload. -/
def cpuLimit : Path := [.field "spec", .field "limits", .index 0, .field "cpu"]

/-- What the resolver says of the type of a field is true of every value without
faults that has the field, unless the path leaves the schema at the root. -/
theorem type_fits_of_resolve {v x : Json} {s : Schema} {p : Path} {type : JsonType}
    {required : Bool} (hv : v.faults s = []) (hroot : s.leavesRoot p = false)
    (hp : s.resolve p = .ok ⟨some type, required⟩) (hx : v.at? p = some x) :
    x.type.fits type = true := by
  have hwalk := Schema.walk_of_resolve_of_leavesRoot hroot hp (by simp)
  exact type_fits_of_walk hv (fun _ => Schema.declares_of_leavesRoot hroot)
    hwalk hx

theorem type_fits_of_resolve_limit :
    workload.faults .workload = [] ∧
      Schema.workload.resolve cpuLimit = .ok ⟨some .number, false⟩ ∧
      workload.at? cpuLimit = some (int 2) ∧ (int 2).type.fits .number = true := by
  have hp : Schema.workload.resolve cpuLimit = .ok ⟨some .number, false⟩ := rfl
  have hx : workload.at? cpuLimit = some (int 2) := rfl
  exact ⟨rfl, hp, hx, type_fits_of_resolve rfl rfl hp hx⟩

/-- A mandatory field is there, if the objects on the way are declared to be
objects: an untyped one may be no object at all. -/
theorem exists_at?_of_walk_required {p : Path} : ∀ {v : Json} {s : Schema}
    {path : Path} {required : Bool} {field : Resolution},
      v.faultsAt s path = [] → s.walk required p = .ok field →
      field.required = true → s.typedAlong p = true → ∃ x, v.at? p = some x := by
  induction p with
  | nil => intro v s path required field _ _ _ _; exact ⟨v, rfl⟩
  | cons segment rest ih =>
      intro v s path required field h hwalk hfield htyped
      have hne : field ≠ {} := by rintro rfl; cases hfield
      obtain ⟨s', mandatory, hstep, hrest⟩ := Schema.walk_cons_eq_ok hwalk hne
      obtain ⟨-, rfl⟩ := Bool.and_eq_true_iff.mp (Schema.required_of_walk hrest hfield)
      rw [Schema.typedAlong, hstep, Bool.and_eq_true] at htyped
      obtain ⟨htypedHere, htypedRest⟩ := htyped
      obtain ⟨shape, name, rfl, rfl, hdeclared, hrequired⟩ :=
        Schema.step_eq_into_true_iff.mp hstep
      rw [Schema.isUntypedObject, Bool.not_not] at htypedHere
      obtain ⟨members, rfl⟩ := exists_members_of_faultsAt_object htypedHere h
      have hthere := (faultsAt_obj_eq_nil_iff.mp h).1 name hrequired
      rw [Keyed.contains, Option.isSome_iff_exists] at hthere
      obtain ⟨v', hv'⟩ := hthere
      have hv'' : v'.faultsAt s' (path ++ [.field name]) = [] := by
        refine faultsAt_of_step h hstep hv' ?_
        rintro _ _ _ ⟨⟩
        exact Schema.declares_of_get? hdeclared
      obtain ⟨x, hx⟩ := ih hv'' hrest hfield htypedRest
      exact ⟨x, by rw [at?, step?, member?, hv']; exact hx⟩

/-- The same of a resolved path: paths that leave the root are never mandatory. -/
theorem exists_at?_of_resolve_required {v : Json} {s : Schema} {p : Path}
    {field : Resolution} (hv : v.faults s = []) (hp : s.resolve p = .ok field)
    (hfield : field.required = true) (htyped : s.typedAlong p = true) :
    ∃ x, v.at? p = some x := by
  have hne : field ≠ {} := by rintro rfl; cases hfield
  rcases Schema.walk_of_resolve hp hne with ⟨hwalk, -⟩ | ⟨rest, -, hwalk⟩
  · exact exists_at?_of_walk_required hv hwalk hfield htyped
  · rw [Schema.required_of_walk_metadata hwalk] at hfield
    cases hfield

end Json

end ComposeLint
