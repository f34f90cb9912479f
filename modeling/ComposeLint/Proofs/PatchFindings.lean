import ComposeLint.Proofs.ChainFlow
import ComposeLint.Proofs.PatchVerdict
import ComposeLint.Proofs.RuleVerdict

/-!
# What is found in a patch

All that the check of a well-shaped patch finds, and where (`Patch.check_findings`).

A copy is a cascade that ends with the first thing that is wrong, so there is at most one
finding. A combination is one too, but for its first stage: paths that do not resolve are
all found, the variables in their order and then the destination, and only if there are
none does the check go on. Each finding points at the field that is to blame, and one that
is about a single transform at a transform that is there; that takes a look into the chain
(`Chain.index_lt_of_check`), as the position is only a number in the error.
-/

namespace ComposeLint

/-- Patches of the type copy one field, between the objects of these schemas. -/
inductive PatchType.Copies (composite composed : Schema) : PatchType → Ends → Prop where
  | fromComposite : Copies composite composed .fromCompositeFieldPath ⟨composite, composed⟩
  | toComposite : Copies composite composed .toCompositeFieldPath ⟨composed, composite⟩

theorem PatchType.Copies.shape_eq {composite composed : Schema} {type : PatchType} {ends : Ends}
    (h : type.Copies composite composed ends) :
    ∃ direction, type.shape = .copy direction ∧
      direction.ends? composite composed = some ends := by
  cases h with
  | fromComposite => exact ⟨.fromComposite, rfl, rfl⟩
  | toComposite => exact ⟨.toComposite, rfl, rfl⟩

/-- Patches of the type combine fields, between the objects of these schemas. -/
inductive PatchType.Combines (composite composed : Schema) : PatchType → Ends → Prop where
  | fromComposite : Combines composite composed .combineFromComposite ⟨composite, composed⟩
  | toComposite : Combines composite composed .combineToComposite ⟨composed, composite⟩

theorem PatchType.Combines.shape_eq {composite composed : Schema} {type : PatchType}
    {ends : Ends} (h : type.Combines composite composed ends) :
    ∃ direction, type.shape = .combine direction ∧
      direction.ends? composite composed = some ends := by
  cases h with
  | fromComposite => exact ⟨.fromComposite, rfl, rfl⟩
  | toComposite => exact ⟨.toComposite, rfl, rfl⟩

namespace Patch

/-- The path that a copy writes to, that of the source if the patch gives none. -/
def WritesTo (p : Patch) (source destination : String) : Prop :=
  p.toFieldPath = some destination ∧ destination ≠ "" ∨
    (p.toFieldPath = none ∨ p.toFieldPath = some "") ∧ destination = source

/-- What is found in a copy. -/
structure CopyVerdict (p : Patch) (ends : Ends) (source destination : String)
    (findings : List Finding) : Prop where
  atMostOne : findings.length ≤ 1
  accepted : findings = [] ↔ ∃ fromField toField,
    ends.source.resolveText source = .ok fromField ∧
    ends.destination.resolveText destination = .ok toField ∧
    (toField.required = true → fromField.required = true ∨ p.requiresSource = true) ∧
    Chain.check p.transforms fromField.type toField.type = .ok ()

/-- All paths of a combination resolve. -/
def CombineResolves (ends : Ends) (combine : Combine) (destination : String) : Prop :=
  VariablesResolve combine ends.source (fun _ => True) ∧
    ∃ toField, ends.destination.resolveText destination = .ok toField

/-- A finding for every variable that does not resolve, and one for the destination if it
does not. -/
def unresolvedFindings (path : Path) (ends : Ends) (combine : Combine) (destination : String) :
    List Finding :=
  (combine.sources.zipIdx.filterMap fun (input, index) =>
    match ends.source.resolveText input.fromFieldPath with
    | .error e => some (.invalid (path.child "combine") combine.sources
        (s!"variable {index} (" ++ input.fromFieldPath ++ "): " ++ e.message))
    | .ok _ => none) ++
  match ends.destination.resolveText destination with
  | .error e => [.invalid (path.child "toFieldPath") destination e.message]
  | .ok _ => []

/-- What is found in a combination. -/
structure CombineVerdict (p : Patch) (path : Path) (ends : Ends) (combine : Combine)
    (destination : String) (findings : List Finding) : Prop where
  unresolved : ¬ CombineResolves ends combine destination →
    findings = unresolvedFindings path ends combine destination
  atMostOne : CombineResolves ends combine destination → findings.length ≤ 1
  accepted : CombineResolves ends combine destination → (findings = [] ↔ ∃ toField,
    ends.destination.resolveText destination = .ok toField ∧
    (toField.required = true →
      VariablesResolve combine ends.source (·.required = true) ∨ p.requiresSource = true) ∧
    combine.strategy = "string" ∧ combine.string ≠ none ∧
    Chain.check p.transforms (some .string) toField.type = .ok ())

/-- The fields of a patch that a finding may point at, as paths from the patch on. -/
inductive Blamable (p : Patch) : Path → Prop where
  | source : Blamable p [.field "fromFieldPath"]
  | destination : Blamable p [.field "toFieldPath"]
  | combine : Blamable p [.field "combine"]
  | configuration : Blamable p [.field "combine", .field "string"]
  | strategy : Blamable p [.field "combine", .field "strategy"]
  | transforms : Blamable p [.field "transforms"]
  | transform {index : Nat} (h : index < p.transforms.length) :
      Blamable p [.field "transforms", .index index]

/-- The finding is at a field of the patch. -/
def Locates (p : Patch) (path : Path) (f : Finding) : Prop :=
  ∃ site, p.Blamable site ∧ f.path = path ++ site

variable {p : Patch} {path : Path} {composite composed : Schema} {ends : Ends}
  {combine : Combine} {source destination : String} {fault : PatchFault}

/-! ## The action -/

theorem writesTo_nonEmpty (p : Patch) (source : String) :
    p.WritesTo source ((nonEmpty p.toFieldPath).getD source) := by
  cases h : nonEmpty p.toFieldPath with
  | none => exact .inr ⟨nonEmpty_eq_none_iff.mp h, rfl⟩
  | some destination => exact .inl (nonEmpty_eq_some_iff.mp h)

theorem eq_copy_of_action {direction : Direction} {action : PatchAction}
    (hkind : p.kind.shape = .copy direction) (h : p.action = .ok action) :
    ∃ source, p.fromFieldPath = some source ∧
      action = .copy direction source ((nonEmpty p.toFieldPath).getD source) := by
  rw [Patch.action, hkind] at h
  dsimp only at h
  split at h
  · cases h
  · next source hsource =>
      cases h
      exact ⟨source, (nonEmpty_eq_some_iff.mp hsource).1, rfl⟩

theorem eq_combine_of_action {direction : Direction} {action : PatchAction}
    (hkind : p.kind.shape = .combine direction) (h : p.action = .ok action) :
    ∃ combine destination, p.combine = some combine ∧ p.toFieldPath = some destination ∧
      action = .combine direction combine destination := by
  rw [Patch.action, hkind] at h
  dsimp only at h
  split at h
  · cases h
  · next combine hcombine =>
      split at h
      · cases h
      · split at h
        · cases h
        · next destination hdestination =>
            cases h
            have hto := (nonEmpty_eq_some_iff.mp hdestination).1
            exact ⟨combine, destination, hcombine, hto, rfl⟩

theorem check_of_copies (hshape : p.WellShaped)
    (hends : p.kind.Copies composite composed ends) :
    ∃ source destination, p.fromFieldPath = some source ∧ p.WritesTo source destination ∧
      p.check path composite composed =
        (p.copyFaults ends source destination).map (PatchFault.finding path) := by
  obtain ⟨action, haction⟩ := hshape
  obtain ⟨direction, hkind, hdirection⟩ := hends.shape_eq
  obtain ⟨source, hsource, rfl⟩ := eq_copy_of_action hkind haction
  refine ⟨source, _, hsource, p.writesTo_nonEmpty source, ?_⟩
  rw [check_eq_map haction ((ends?_of_action haction ..).trans hdirection),
    actionFaults_copy hdirection]

theorem check_of_combines (hshape : p.WellShaped)
    (hends : p.kind.Combines composite composed ends) :
    ∃ combine destination, p.combine = some combine ∧ p.toFieldPath = some destination ∧
      p.check path composite composed =
        (p.combineFaults ends combine destination).map (PatchFault.finding path) := by
  obtain ⟨action, haction⟩ := hshape
  obtain ⟨direction, hkind, hdirection⟩ := hends.shape_eq
  obtain ⟨combine, destination, hcombine, hto, rfl⟩ := eq_combine_of_action hkind haction
  refine ⟨combine, destination, hcombine, hto, ?_⟩
  rw [check_eq_map haction ((ends?_of_action haction ..).trans hdirection),
    actionFaults_combine hdirection]

/-! ## The stages of the cascade -/

theorem length_chainFaults_le (p : Patch) (source destination : Option JsonType) :
    (p.chainFaults source destination).length ≤ 1 := by
  rw [chainFaults]
  split <;> simp

theorem length_copyFaults_le : (p.copyFaults ends source destination).length ≤ 1 := by
  rw [copyFaults]
  split
  · simp
  · split
    · simp
    · split
      · simp
      · exact length_chainFaults_le ..

theorem length_strategyFaults_le (p : Patch) (combine : Combine)
    (destination : Option JsonType) : (p.strategyFaults combine destination).length ≤ 1 := by
  rw [strategyFaults]
  split
  · simp
  · split
    · simp
    · exact length_chainFaults_le ..

theorem strategy_eq_some_iff {text : String} :
    CombineStrategy.ofName? text = some .string ↔ text = "string" := by
  by_cases h : text = "string"
  · subst h
    exact iff_of_true rfl rfl
  · simp [CombineStrategy.ofName?, CombineStrategy.name, h, eq_comm]

theorem strategyFaults_eq_nil_iff {type : Option JsonType} :
    p.strategyFaults combine type = [] ↔
      combine.strategy = "string" ∧ combine.string ≠ none ∧
        Chain.check p.transforms (some .string) type = .ok () := by
  rw [strategyFaults, ← strategy_eq_some_iff, ← chainFaults_eq_nil_iff]
  cases CombineStrategy.ofName? combine.strategy with
  | none => simp
  | some strategy =>
      cases strategy
      cases combine.string <;> simp

/-- The fault of a destination that does not resolve. -/
def unresolvedDestination (ends : Ends) (destination : String) : List PatchFault :=
  match ends.destination.resolveText destination with
  | .error e => [.unresolvedDestination destination e]
  | .ok _ => []

/-- Nothing is looked at past the paths if one does not resolve. -/
theorem combineFaults_of_not_resolves (p : Patch)
    (h : ¬ CombineResolves ends combine destination) :
    p.combineFaults ends combine destination =
      unresolvedVariables combine ends.source ++ unresolvedDestination ends destination := by
  rw [combineFaults_eq, unresolvedDestination]
  cases hto : ends.destination.resolveText destination with
  | error e => rfl
  | ok toField =>
      cases hunresolved : unresolvedVariables combine ends.source with
      | nil => exact absurd ⟨unresolvedVariables_eq_nil_iff.mp hunresolved, toField, hto⟩ h
      | cons fault rest => exact (List.append_nil _).symm

theorem length_combineFaults_le (p : Patch) (h : CombineResolves ends combine destination) :
    (p.combineFaults ends combine destination).length ≤ 1 := by
  obtain ⟨hvariables, toField, hto⟩ := h
  rw [combineFaults_eq, unresolvedVariables_eq_nil_iff.mpr hvariables, hto]
  dsimp only
  split
  · simp
  · exact length_strategyFaults_le ..

theorem map_finding_unresolvedVariables (path : Path) (combine : Combine) (source : Schema) :
    (unresolvedVariables combine source).map (PatchFault.finding path) =
      combine.sources.zipIdx.filterMap fun (input, index) =>
        match source.resolveText input.fromFieldPath with
        | .error e => some (.invalid (path.child "combine") combine.sources
            (s!"variable {index} (" ++ input.fromFieldPath ++ "): " ++ e.message))
        | .ok _ => none := by
  rw [unresolvedVariables, resolveVariables, List.filterMap_map, List.map_filterMap]
  refine List.filterMap_congr fun v _ => ?_
  obtain ⟨input, index⟩ := v
  dsimp only [Function.comp_apply]
  cases source.resolveText input.fromFieldPath <;> rfl

theorem map_finding_of_not_resolves (h : ¬ CombineResolves ends combine destination) :
    (p.combineFaults ends combine destination).map (PatchFault.finding path) =
      unresolvedFindings path ends combine destination := by
  rw [combineFaults_of_not_resolves p h, List.map_append, map_finding_unresolvedVariables,
    unresolvedFindings, unresolvedDestination]
  cases ends.destination.resolveText destination <;> rfl

/-! ## Where the findings are -/

theorem Incurs.locates {action : PatchAction} (h : p.Incurs action fault) (path : Path) :
    p.Locates path (fault.finding path) := by
  cases h with
  | unresolvedSource _ _ | optionalSource _ _ => exact ⟨_, .source, rfl⟩
  | unresolvedDestination _ _ => exact ⟨_, .destination, rfl⟩
  | unresolvedVariable _ _ | optionalVariables _ _ => exact ⟨_, .combine, rfl⟩
  | missingStringFormat => exact ⟨_, .configuration, List.append_assoc ..⟩
  | unknownStrategy => exact ⟨_, .strategy, List.append_assoc ..⟩
  | @chain _ _ cause hcheck =>
      cases cause with
      | invalidTransform _ _ | inputMismatch _ _ _ | unsupportedConversion _ _ _ _ =>
          exact ⟨_, .transform (Chain.index_lt_of_check hcheck rfl), List.append_assoc ..⟩
      | transformRequired _ _ | outputMismatch _ _ => exact ⟨_, .transforms, rfl⟩

theorem locates_of_mem_check (hshape : p.WellShaped) {f : Finding}
    (hf : f ∈ p.check path composite composed) : p.Locates path f := by
  obtain ⟨action, haction⟩ := hshape
  rw [check, haction] at hf
  split at hf
  · cases hf
  · obtain ⟨fault, hfault, rfl⟩ := List.mem_map.mp hf
    exact (incurs_of_mem_actionFaults hfault).locates path

/-! ## The verdict -/

theorem copyVerdict (p : Patch) (path : Path) (ends : Ends) (source destination : String) :
    p.CopyVerdict ends source destination
      ((p.copyFaults ends source destination).map (PatchFault.finding path)) where
  atMostOne := by
    rw [List.length_map]
    exact length_copyFaults_le
  accepted := by
    rw [List.map_eq_nil_iff]
    exact copyFaults_eq_nil_iff

theorem combineVerdict (p : Patch) (path : Path) (ends : Ends) (combine : Combine)
    (destination : String) :
    p.CombineVerdict path ends combine destination
      ((p.combineFaults ends combine destination).map (PatchFault.finding path)) where
  unresolved := map_finding_of_not_resolves
  atMostOne := by
    intro hresolves
    rw [List.length_map]
    exact length_combineFaults_le p hresolves
  accepted := by
    rintro ⟨hvariables, -⟩
    rw [List.map_eq_nil_iff, combineFaults_eq_nil_iff]
    simp only [hvariables, true_and, strategyFaults_eq_nil_iff]

/-- All that the check of a well-shaped patch finds. In a copy it finds at most one thing,
and nothing if both paths resolve, a mandatory destination has a mandatory source, and the
transforms turn one type into the other. In a combination it finds all paths that do not
resolve, or else at most one thing. What it finds is at a field of the patch. -/
theorem check_findings {p : Patch} (hshape : p.WellShaped) (path : Path)
    (composite composed : Schema) :
    (∀ ends, p.kind.Copies composite composed ends →
      ∃ source destination, p.fromFieldPath = some source ∧ p.WritesTo source destination ∧
        p.CopyVerdict ends source destination (p.check path composite composed)) ∧
    (∀ ends, p.kind.Combines composite composed ends →
      ∃ combine destination, p.combine = some combine ∧ p.toFieldPath = some destination ∧
        p.CombineVerdict path ends combine destination (p.check path composite composed)) ∧
    ∀ f ∈ p.check path composite composed, p.Locates path f := by
  refine ⟨?_, ?_, ?_⟩
  · intro ends hends
    obtain ⟨source, destination, hsource, hdestination, hcheck⟩ := check_of_copies hshape hends
    rw [hcheck]
    exact ⟨source, destination, hsource, hdestination, p.copyVerdict path ends _ _⟩
  · intro ends hends
    obtain ⟨combine, destination, hcombine, hdestination, hcheck⟩ :=
      check_of_combines hshape hends
    rw [hcheck]
    exact ⟨combine, destination, hcombine, hdestination, p.combineVerdict path ends _ _⟩
  · intro f hf
    exact locates_of_mem_check hshape hf

/-- Greets by three names, of which a person has one, on a line that cards do not have. -/
def greeting : Patch where
  type := some .combineFromComposite
  fromFieldPath := none
  toFieldPath := some "line"
  combine := some
    { sources := [⟨"title"⟩, ⟨"name"⟩, ⟨"surname"⟩]
      strategy := "string"
      string := some ⟨"%s %s %s"⟩ }
  patchSetName := none
  transforms := []
  policy := none

def person : Schema :=
  .object { properties := [("name", .scalar .string)], required := ["name"], typed := true }

def card : Schema := .object { typed := true }

theorem check_findings_greeting :
    greeting.WellShaped ∧ greeting.kind.Combines person card ⟨person, card⟩ ∧
      (greeting.check (Patch.path 0 1) person card).map Finding.path =
        [(Patch.path 0 1).child "combine", (Patch.path 0 1).child "combine",
          (Patch.path 0 1).child "toFieldPath"] ∧
      (∃ combine destination, greeting.combine = some combine ∧
        greeting.toFieldPath = some destination ∧
        greeting.CombineVerdict (Patch.path 0 1) ⟨person, card⟩ combine destination
          (greeting.check (Patch.path 0 1) person card)) ∧
      ∀ f ∈ greeting.check (Patch.path 0 1) person card,
        greeting.Locates (Patch.path 0 1) f := by
  have hshape : greeting.WellShaped := ⟨_, rfl⟩
  have hends : greeting.kind.Combines person card ⟨person, card⟩ := .fromComposite
  obtain ⟨-, hcombine, hlocates⟩ := check_findings hshape (Patch.path 0 1) person card
  exact ⟨hshape, hends, rfl, hcombine _ hends, hlocates⟩

end Patch

end ComposeLint
