import ComposeLint.Proofs.ConvertedSchemas

/-!
# Paths that do not resolve

A path that leads somewhere in a value of the schema should resolve: what the value
has, the schema allows. `resolve_ok_or_leavesOpen` says that it does, but for three exceptions,
in which the shape check has nothing to say and the resolver still wants a
declaration. A node of no declared type is one, where any value passes and the
resolver finds no field and no item (`Schema.leavesOpen`); so are the items after the
last that an array describes by position; and so are `apiVersion` and `kind` at the
root, if the schema does not declare them.

The walk of the resolver fails at one segment, at the node that the path led to before
it (`Schema.StopsAt`). There the value and the node are compared: a value without
faults that has something at the segment leaves only those nodes. A scalar node cannot
be one of them, as a value with members or items has not the type of a scalar. That
holds for schemas that were declared, and not for every schema there could be.
-/

namespace ComposeLint

namespace Schema

/-- Whether the node allows any value at the segment and yet has no step for it. -/
def leavesOpen (node : Schema) (segment : Segment) : Bool :=
  match node, segment with
  | unknown, _ => true
  | object shape, .index _ => !shape.typed
  | array (.positional schemas), .index n => schemas.length ≤ n
  | _, _ => false

/-- The path leads to a node that has no step for the segment after it. -/
inductive StopsAt : Schema → Path → Schema → Segment → ResolveError → Prop where
  | here {s : Schema} {segment : Segment} {rest : Path} {e : ResolveError}
      (hstep : s.step segment = .error e) : StopsAt s (segment :: rest) s segment e
  | beyond {s s' node : Schema} {segment failing : Segment} {required : Bool} {rest : Path}
      {e : ResolveError} (hstep : s.step segment = .ok (.into s' required))
      (hrest : StopsAt s' rest node failing e) :
      StopsAt s (segment :: rest) node failing e

/-- A walk fails where it has no step. -/
theorem walk_eq_error_iff {path : Path} {e : ResolveError} :
    ∀ {s : Schema} {required : Bool},
      s.walk required path = .error e ↔ ∃ node segment, s.StopsAt path node segment e := by
  induction path with
  | nil =>
      intro s required
      exact iff_of_false nofun (by rintro ⟨_, _, ⟨⟩⟩)
  | cons segment rest ih =>
      intro s required
      constructor
      · intro h
        rw [walk] at h
        split at h
        · next hstep =>
            cases h
            exact ⟨s, segment, .here hstep⟩
        · cases h
        · next hstep =>
            obtain ⟨node, failing, hrest⟩ := ih.mp h
            exact ⟨node, failing, .beyond hstep hrest⟩
      · rintro ⟨node, failing, hstops⟩
        cases hstops with
        | here hstep => rw [walk, hstep]
        | beyond hstep hrest =>
            rw [walk, hstep]
            exact ih.mpr ⟨node, failing, hrest⟩

/-- Of the paths that leave the schema at the root, those that do not begin with the
metadata begin with an undeclared `apiVersion` or `kind`. -/
theorem undeclared_of_leavesRoot {s : Schema} {p : Path} (h : s.leavesRoot p = true)
    (hmetadata : p.head? ≠ some (.field "metadata")) :
    ∃ name, (name = "apiVersion" ∨ name = "kind") ∧ p.head? = some (.field name) ∧
      s.declares name = false := by
  rw [leavesRoot.eq_def] at h
  split at h
  · next name rest =>
      simp only [List.head?_cons, ne_eq, Option.some.injEq, Segment.field.injEq] at hmetadata
      simp only [hmetadata, decide_false, Bool.false_or, Bool.and_eq_true, Bool.or_eq_true,
        decide_eq_true_eq, Bool.not_eq_true'] at h
      exact ⟨name, h.1, rfl, h.2⟩
  · cases h

end Schema

namespace Json

/-- Only objects and arrays have something to step to. -/
theorem type_of_step? {v x : Json} {segment : Segment} (hx : v.step? segment = some x) :
    v.type = .object ∨ v.type = .array := by
  cases segment with
  | field name =>
      cases v with
      | obj members => exact .inl rfl
      | _ => cases hx
  | index n =>
      cases v with
      | arr values => exact .inr rfl
      | _ => cases hx

/-- No member of an object without faults is forbidden. -/
theorem rule_ne_forbidden {members : List (String × Json)} {shape : ObjectShape Schema}
    {path : Path} {name : String} {x : Json}
    (h : (obj members).faultsAt (.object shape) path = [])
    (hroot : path = [] → name ∈ ObjectShape.implicitRootMembers →
      (Schema.object shape).declares name = true)
    (hx : Keyed.get? name members = some x) : shape.rule name ≠ .forbidden := by
  intro hrule
  have hmember := faults_of_member h hx
  rw [Schema.ruleAt_eq_rule hroot, hrule] at hmember
  cases hmember

/-- Where a value without faults has something and the node has no step to it, the node
leaves that open. -/
theorem leavesOpen_of_step {v x : Json} {s : Schema} {path : Path} {segment : Segment}
    {e : ResolveError} (hs : s.Converted) (h : v.faultsAt s path = [])
    (hroot : path = [] → ∀ name ∈ ObjectShape.implicitRootMembers,
      segment = .field name → s.declares name = true)
    (hx : v.step? segment = some x) (hstep : s.step segment = .error e) :
    s.leavesOpen segment = true := by
  cases s with
  | unknown => rfl
  | scalar type =>
      -- This is the one case that a schema which was never declared could fail.
      have hfits := fits_of_faultsAt_scalar h
      obtain ⟨hobject, harray⟩ := hs.scalar_type_ne
      obtain htype | htype := type_of_step? hx <;> rw [htype] at hfits
      · obtain heq | ⟨⟨⟩, -⟩ := JsonType.fits_iff.mp hfits
        exact absurd heq.symm hobject
      · obtain heq | ⟨⟨⟩, -⟩ := JsonType.fits_iff.mp hfits
        exact absurd heq.symm harray
  | array items =>
      obtain ⟨values, rfl⟩ := exists_items_of_faultsAt_array h
      cases segment with
      | field name => cases hx
      | index n =>
          cases items with
          | any => cases hstep
          | each schema => cases hstep
          | positional schemas =>
              rw [Schema.step] at hstep
              split at hstep
              · cases hstep
              · next hnone => exact decide_eq_true (List.getElem?_eq_none_iff.mp hnone)
  | object shape =>
      cases segment with
      | field name =>
          cases v with
          | obj members =>
              have hrule := rule_ne_forbidden h (fun hp hn => hroot hp name hn rfl) hx
              rw [Schema.step] at hstep
              split at hstep
              · cases hstep
              · cases hstep
              · cases hstep
              · next hforbidden => exact absurd hforbidden hrule
          | _ => cases hx
      | index n =>
          rw [Schema.leavesOpen, Bool.not_eq_true', ← Bool.not_eq_true]
          intro htyped
          obtain ⟨members, rfl⟩ := exists_members_of_faultsAt_object htyped h
          cases hx

/-- Along a path that the value has, the walk stops only where a node leaves that open. -/
theorem leavesOpen_of_stopsAt {p : Path} {s node : Schema} {segment : Segment}
    {e : ResolveError} (hstops : s.StopsAt p node segment e) :
    ∀ {v x : Json} {path : Path}, s.Converted → v.faultsAt s path = [] →
      (path = [] → ∀ name ∈ ObjectShape.implicitRootMembers,
        p.head? = some (.field name) → s.declares name = true) →
      v.at? p = some x → node.leavesOpen segment = true := by
  induction hstops with
  | here hstep =>
      intro v x path hs h hroot hx
      obtain ⟨v', hv', -⟩ := Option.bind_eq_some_iff.mp hx
      refine leavesOpen_of_step hs h (fun hp name hname hsegment => ?_) hv' hstep
      exact hroot hp name hname (by rw [hsegment, List.head?_cons])
  | beyond hstep hrest ih =>
      intro v x path hs h hroot hx
      obtain ⟨v', hv', hx⟩ := Option.bind_eq_some_iff.mp hx
      have hfaults := faultsAt_of_step h hstep hv' fun hp name hname hsegment =>
        hroot hp name hname (by rw [hsegment, List.head?_cons])
      exact ih (hs.of_step hstep) hfaults (by simp) hx

/-- A path that leads somewhere in a value without faults resolves, unless it comes to a
node that leaves open what is there, or begins with a member that every object has and
the schema does not declare. -/
theorem resolve_ok_or_leavesOpen {d : Declaration} {s : Schema} {v x : Json} {p : Path}
    (hs : d.toSchema = .ok s) (hv : v.faults s = [])
    (hmetadata : p.head? ≠ some (.field "metadata")) (hx : v.at? p = some x) :
    (∃ field, s.resolve p = .ok field) ∨
      (∃ node segment e, s.resolve p = .error e ∧ s.StopsAt p node segment e ∧
        node.leavesOpen segment = true) ∨
      ∃ name, (name = "apiVersion" ∨ name = "kind") ∧ p.head? = some (.field name) ∧
        s.declares name = false := by
  cases hresolve : s.resolve p with
  | ok field => exact .inl ⟨field, rfl⟩
  | error e =>
      right
      by_cases hroot : s.leavesRoot p = true
      · exact .inr (Schema.undeclared_of_leavesRoot hroot hmetadata)
      · have hne : p ≠ [] := by
          rintro rfl
          cases hresolve
        rw [Schema.resolve_eq_walk hne hmetadata, Schema.walk_eq_error_iff] at hresolve
        obtain ⟨node, segment, hstops⟩ := hresolve
        rw [Bool.not_eq_true] at hroot
        exact .inl ⟨node, segment, e, rfl, hstops, leavesOpen_of_stopsAt hstops ⟨d, hs⟩ hv
          (fun _ => Schema.declares_of_leavesRoot hroot) hx⟩

/-- A resource with a pair of a text and an integer. -/
def paired : Declaration :=
  { type := some "object"
    properties := some
      [("pair", { type := some "array",
                  items := .positional [{ type := some "string" }, { type := some "integer" }] })] }

/-- Such a pair, with one item too many. -/
def tripled : Json := .obj [("pair", .arr [.str "size", .int 3, .bool true])]

/-- What stands after a pair passes the shape check and does not resolve. -/
theorem resolve_ok_or_leavesOpen_paired :
    ∃ s, paired.toSchema = .ok s ∧ tripled.faults s = [] ∧
      tripled.at? [.field "pair", .index 2] = some (.bool true) ∧
      ∃ node segment e, s.resolve [.field "pair", .index 2] = .error e ∧
        s.StopsAt [.field "pair", .index 2] node segment e ∧
        node.leavesOpen segment = true := by
  obtain ⟨s, hs⟩ : ∃ s, paired.toSchema = .ok s := ⟨_, rfl⟩
  have hv : tripled.faults s = [] := by
    cases hs
    rfl
  have hx : tripled.at? [.field "pair", .index 2] = some (.bool true) := rfl
  refine ⟨s, hs, hv, hx, ?_⟩
  rcases resolve_ok_or_leavesOpen hs hv (by decide) hx with
    ⟨field, h⟩ | h | ⟨name, hname, hhead, -⟩
  · cases hs
    cases h
  · exact h
  · obtain rfl : "pair" = name := Segment.field.inj (Option.some.inj hhead)
    exact absurd hname (by decide)

end Json

end ComposeLint
