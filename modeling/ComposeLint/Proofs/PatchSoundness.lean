import ComposeLint.Proofs.ChainFlow
import ComposeLint.Proofs.PatchVerdict
import ComposeLint.Proofs.SchemaWalk

/-!
# What an accepted patch can do

A patch is checked once, against two schemas, and then run on every object that
conforms to the schema it reads. The check is sound if what it accepts cannot
fail there in the two ways it looks for: a mandatory field that is left unset
because what it is set from is missing, and a value that is copied to a field of
another type.

Both come out of the walks of `SchemaWalk.lean`, which say that what the resolver
answered is true of the object. What is added here is the rule set: a mandatory
destination was only accepted with mandatory sources, and a bare copy only with
types that fit, and fitting is transitive.
-/

namespace ComposeLint

/-- All that an action reads is there, as far as the schema it reads from declares
objects on the way. -/
def PatchAction.SourcesIn (action : PatchAction) (source : Schema) (v : Json) : Prop :=
  ∀ text ∈ action.sources, ∃ path, Path.parse text = .ok path ∧
    (source.typedAlong path = true → ∃ x, v.at? path = some x)

/-- What an accepted patch promises of a value of the object that it reads. -/
structure Patch.Sound (p : Patch) (action : PatchAction) (ends : Ends) (v : Json) :
    Prop where
  /-- A mandatory field is not left unset. -/
  sourcesIn : ∀ {destination : String} {field : Resolution},
    action.destination? = some destination →
    ends.destination.resolveText destination = .ok field →
    field.required = true → p.requiresSource = false →
    action.SourcesIn ends.source v
  /-- What is copied as it is fits where it is copied to. -/
  copyFits : ∀ {direction : Direction} {source destination : String} {path : Path}
    {fromType toType : JsonType} {fromRequired toRequired : Bool} {x : Json},
    action = .copy direction source destination → p.transforms = [] →
    Path.parse source = .ok path → ends.source.leavesRoot path = false →
    ends.source.resolve path = .ok ⟨some fromType, fromRequired⟩ →
    ends.destination.resolveText destination = .ok ⟨some toType, toRequired⟩ →
    v.at? path = some x → x.type.fits toType = true

namespace Patch

/-- The sources of an action are there if they are all mandatory. -/
theorem sourcesIn_of_required {action : PatchAction} {s : Schema} {v : Json}
    (hv : v.faults s = [])
    (h : ∀ text ∈ action.sources, ∃ field,
      s.resolveText text = .ok field ∧ field.required = true) :
    action.SourcesIn s v := by
  intro text htext
  obtain ⟨field, hfield, hrequired⟩ := h text htext
  obtain ⟨path, hparse, hresolve⟩ := Schema.resolveText_eq_ok_iff.mp hfield
  exact ⟨path, hparse, Json.exists_at?_of_resolve_required hv hresolve hrequired⟩

/-- What the rule for mandatory destinations asks for was given, unless the policy
of the patch stands in for it. -/
theorem given_of_mandatory {p : Patch} {given : Prop} {s : Schema} {text : String}
    {field field' : Resolution} (hfield : s.resolveText text = .ok field)
    (hrule : field.required = true → given ∨ p.requiresSource = true)
    (hfield' : s.resolveText text = .ok field') (hmandatory : field'.required = true)
    (hpolicy : p.requiresSource = false) : given := by
  rw [hfield] at hfield'
  injection hfield' with hfield'
  subst hfield'
  rcases hrule hmandatory with hgiven | hrequires
  · exact hgiven
  · rw [hpolicy] at hrequires
    cases hrequires

/-! ## The two kinds of action -/

theorem sound_of_copyFaults {p : Patch} {direction : Direction}
    {source destination : String} {ends : Ends} {v : Json}
    (hv : v.faults ends.source = [])
    (h : p.copyFaults ends source destination = []) :
    p.Sound (.copy direction source destination) ends v := by
  obtain ⟨fromField, toField, hfrom, hto, hrule, hchain⟩ :=
    copyFaults_eq_nil_iff.mp h
  constructor
  · intro destination' field hdestination hfield hmandatory hpolicy
    injection hdestination with hdestination
    subst hdestination
    have hgiven := given_of_mandatory hto hrule hfield hmandatory hpolicy
    refine sourcesIn_of_required hv fun text htext => ?_
    obtain rfl := List.mem_singleton.mp htext
    exact ⟨fromField, hfrom, hgiven⟩
  · intro direction' source' destination' path fromType toType fromRequired toRequired
      x haction htransforms hparse hroot hresolve hdestination hx
    injection haction with _ hsource hdest
    subst hsource hdest
    rw [Schema.resolveText_eq_ok_iff.mpr ⟨path, hparse, hresolve⟩] at hfrom
    injection hfrom with hfrom
    rw [hdestination] at hto
    injection hto with hto
    rw [← hfrom, ← hto, htransforms] at hchain
    have hwalk := Schema.walk_of_resolve_of_leavesRoot hroot hresolve (by simp)
    have hsourceFits := Json.type_fits_of_walk hv
      (fun _ => Schema.declares_of_leavesRoot hroot) hwalk hx
    exact JsonType.fits_trans hsourceFits (Chain.check_nil_eq_ok_iff.mp hchain)

theorem sound_of_combineFaults {p : Patch} {direction : Direction}
    {combine : Combine} {destination : String} {ends : Ends} {v : Json}
    (hv : v.faults ends.source = [])
    (h : p.combineFaults ends combine destination = []) :
    p.Sound (.combine direction combine destination) ends v := by
  obtain ⟨toField, -, hto, hrule, -⟩ := combineFaults_eq_nil_iff.mp h
  constructor
  · intro destination' field hdestination hfield hmandatory hpolicy
    injection hdestination with hdestination
    subst hdestination
    have hgiven := given_of_mandatory hto hrule hfield hmandatory hpolicy
    refine sourcesIn_of_required hv fun text htext => ?_
    obtain ⟨input, hinput, rfl⟩ := List.mem_map.mp htext
    exact hgiven input hinput
  · intro _ _ _ _ _ _ _ _ _ haction
    cases haction

/-- A patch that is accepted is sound for every value without faults of the object
that it reads. -/
theorem sound_of_check {p : Patch} {action : PatchAction} {path : Path}
    {composite composed : Schema} {ends : Ends} {v : Json}
    (haction : p.action = .ok action)
    (hends : p.kind.ends? composite composed = some ends)
    (hcheck : p.check path composite composed = [])
    (hv : v.faults ends.source = []) : p.Sound action ends v := by
  rw [check_eq_nil_iff haction hends] at hcheck
  rw [ends?_of_action haction] at hends
  cases action with
  | copy direction source destination =>
      rw [actionFaults_copy hends] at hcheck
      exact sound_of_copyFaults hv hcheck
  | combine direction combine destination =>
      rw [actionFaults_combine hends] at hcheck
      exact sound_of_combineFaults hv hcheck
  | splice patchSet => cases hends

/-- A patch of the mandatory count of a composed resource, from the size of the
workload. -/
def sizeToCount : Patch where
  type := none
  fromFieldPath := some "spec.size"
  toFieldPath := some "count"
  combine := none
  patchSetName := none
  transforms := []
  policy := none

/-- The composed resource of that patch. -/
def counted : Schema :=
  .object
    { properties := [("count", .scalar .number)], required := ["count"], typed := true }

theorem sound_of_check_sizeToCount :
    sizeToCount.check (path 0 0) .workload counted = [] ∧
      Json.workload.faults .workload = [] ∧
      (∃ x, Json.workload.at? [.field "spec", .field "size"] = some x) ∧
      (Json.int 3).type.fits .number = true := by
  have hends : sizeToCount.kind.ends? .workload counted =
      some ⟨.workload, counted⟩ := rfl
  have hcheck : sizeToCount.check (path 0 0) .workload counted = [] := rfl
  have hv : Json.workload.faults .workload = [] := rfl
  have hsound := sound_of_check rfl hends hcheck hv
  refine ⟨hcheck, hv, ?_, ?_⟩
  · obtain ⟨path, hparse, hthere⟩ :=
      hsound.sourcesIn rfl rfl rfl rfl "spec.size" (List.mem_singleton.mpr rfl)
    cases hparse
    exact hthere rfl
  · exact hsound.copyFits rfl rfl rfl rfl rfl rfl rfl

end Patch

end ComposeLint
