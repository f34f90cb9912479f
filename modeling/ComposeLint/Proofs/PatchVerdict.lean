import ComposeLint.Patch.Check

/-!
# When a patch is accepted

The check of a patch is a cascade: it stops at the first thing that is wrong, and
what comes later is only looked at if all before it was right. An empty list of
faults has been through the whole cascade. The lemmas here turn each list of
faults into the conditions that it is empty under, and the check of a whole patch
into the faults of its action. What is in a list of faults has come out of one stage
of the cascade, and `Patch.Incurs` has a constructor for each.
-/

namespace ComposeLint

theorem Schema.resolveText_eq_ok_iff {s : Schema} {text : String}
    {field : Resolution} :
    s.resolveText text = .ok field ↔
      ∃ path, Path.parse text = .ok path ∧ s.resolve path = .ok field := by
  rw [resolveText]
  cases Path.parse text with
  | error e => simp
  | ok path => simp

namespace PatchType

/-- The schemas at the two ends of the patches of a type, if they go between two
resources. -/
def ends? (composite composed : Schema) (type : PatchType) : Option Ends :=
  match type.shape with
  | .copy direction | .combine direction => direction.ends? composite composed
  | .splice => none

theorem isSome_ends? (composite composed : Schema) (type : PatchType) :
    (type.ends? composite composed).isSome = type.isCheckable := by
  cases type <;> rfl

end PatchType

namespace PatchAction

/-- The schemas at the two ends of an action. -/
def ends? (composite composed : Schema) : PatchAction → Option Ends
  | copy direction _ _ | combine direction _ _ => direction.ends? composite composed
  | splice _ => none

/-- The texts of the paths that an action reads. -/
def sources : PatchAction → List String
  | copy _ source _ => [source]
  | combine _ config _ => config.sources.map (·.fromFieldPath)
  | splice _ => []

/-- The text of the path that an action writes. -/
def destination? : PatchAction → Option String
  | copy _ _ destination | combine _ _ destination => some destination
  | splice _ => none

end PatchAction

namespace Patch

/-! ## The faults of an action -/

theorem chainFaults_eq_nil_iff {p : Patch} {source destination : Option JsonType} :
    p.chainFaults source destination = [] ↔
      Chain.check p.transforms source destination = .ok () := by
  rw [chainFaults]
  cases Chain.check p.transforms source destination with
  | error e => simp
  | ok _ => simp

/-- The guard of a mandatory destination, and what comes after it. -/
theorem guarded_eq_nil_iff {mandatory given policy : Bool} {fault : PatchFault}
    {rest : List PatchFault} :
    (if mandatory && !(given || policy) then [fault] else rest) = [] ↔
      (mandatory = true → given = true ∨ policy = true) ∧ rest = [] := by
  have hguard : (mandatory && !(given || policy)) = false ↔
      (mandatory = true → given = true ∨ policy = true) := by
    cases mandatory <;> cases given <;> cases policy <;> decide
  rw [← hguard]
  split
  · next h => simp only [h, reduceCtorEq, Bool.true_eq_false, false_and]
  · next h => simp only [h, true_and]

theorem copyFaults_eq_nil_iff {p : Patch} {ends : Ends}
    {source destination : String} :
    p.copyFaults ends source destination = [] ↔
      ∃ fromField toField,
        ends.source.resolveText source = .ok fromField ∧
        ends.destination.resolveText destination = .ok toField ∧
        (toField.required = true →
          fromField.required = true ∨ p.requiresSource = true) ∧
        Chain.check p.transforms fromField.type toField.type = .ok () := by
  rw [copyFaults]
  cases ends.source.resolveText source with
  | error e => simp
  | ok fromField =>
      cases ends.destination.resolveText destination with
      | error e => simp
      | ok toField =>
          simp only [Except.ok.injEq, exists_eq_left', exists_and_left]
          rw [guarded_eq_nil_iff, chainFaults_eq_nil_iff]

/-- Every variable of a combination resolves, to a field with that property. -/
def VariablesResolve (combine : Combine) (source : Schema)
    (property : Resolution → Prop) : Prop :=
  ∀ input ∈ combine.sources, ∃ field,
    source.resolveText input.fromFieldPath = .ok field ∧ property field

/-- The variables with their positions are the variables. -/
theorem mem_resolveVariables_iff {combine : Combine} {source : Schema}
    {index : Nat} {path : String} {result : Except ResolveError Resolution} :
    (index, path, result) ∈ resolveVariables combine source ↔
      ∃ input, combine.sources[index]? = some input ∧
        path = input.fromFieldPath ∧ result = source.resolveText path := by
  simp only [resolveVariables, List.mem_map, Prod.exists,
    List.mk_mem_zipIdx_iff_getElem?, Prod.mk.injEq]
  constructor
  · rintro ⟨input, i, hinput, rfl, rfl, rfl⟩
    exact ⟨input, hinput, rfl, rfl⟩
  · rintro ⟨input, hinput, rfl, rfl⟩
    exact ⟨input, index, hinput, rfl, rfl, rfl⟩

theorem forall_resolveVariables_iff (combine : Combine) (source : Schema)
    (property : Except ResolveError Resolution → Prop) :
    (∀ v ∈ resolveVariables combine source, property v.2.2) ↔
      ∀ input ∈ combine.sources,
        property (source.resolveText input.fromFieldPath) := by
  constructor
  · intro h input hinput
    obtain ⟨index, hindex⟩ := List.mem_iff_getElem?.mp hinput
    exact h (index, input.fromFieldPath, source.resolveText input.fromFieldPath)
      (mem_resolveVariables_iff.mpr ⟨input, hindex, rfl, rfl⟩)
  · rintro h ⟨index, path, result⟩ hv
    obtain ⟨input, hindex, rfl, rfl⟩ := mem_resolveVariables_iff.mp hv
    exact h input (List.mem_of_getElem? hindex)

/-- The faults of the variables that do not resolve, in their order. -/
def unresolvedVariables (combine : Combine) (source : Schema) : List PatchFault :=
  (resolveVariables combine source).filterMap fun (index, path, result) =>
    match result with
    | .error e => some (PatchFault.unresolvedVariable combine index path e)
    | .ok _ => none

/-- Whether every variable that resolves is mandatory. -/
def variablesRequired (combine : Combine) (source : Schema) : Bool :=
  (resolveVariables combine source).all fun (_, _, result) =>
    match result with
    | .error _ => true
    | .ok field => field.required

theorem combineFaults_eq (p : Patch) (ends : Ends) (combine : Combine)
    (destination : String) :
    p.combineFaults ends combine destination =
      match unresolvedVariables combine ends.source,
        ends.destination.resolveText destination with
      | unresolved, .error e => unresolved ++ [.unresolvedDestination destination e]
      | [], .ok toField =>
        if toField.required &&
            !(variablesRequired combine ends.source || p.requiresSource) then
          [.optionalVariables combine destination]
        else p.strategyFaults combine toField.type
      | unresolved, .ok _ => unresolved := rfl

theorem unresolvedVariables_eq_nil_iff {combine : Combine} {source : Schema} :
    unresolvedVariables combine source = [] ↔
      VariablesResolve combine source fun _ => True := by
  have hall := forall_resolveVariables_iff combine source fun result =>
    ∃ field, result = .ok field ∧ True
  rw [VariablesResolve, ← hall, unresolvedVariables, List.filterMap_eq_nil_iff]
  refine forall₂_congr fun v _ => ?_
  obtain ⟨index, path, result⟩ := v
  cases result <;> simp

theorem variablesRequired_iff {combine : Combine} {source : Schema}
    (h : VariablesResolve combine source fun _ => True) :
    variablesRequired combine source = true ↔
      VariablesResolve combine source (·.required = true) := by
  have hall := forall_resolveVariables_iff combine source fun result =>
    ∀ field, result = .ok field → field.required = true
  have hvariable : ∀ v ∈ resolveVariables combine source,
      ((match v.2.2 with
        | .error _ => true
        | .ok field => field.required) = true ↔
        ∀ field, v.2.2 = .ok field → field.required = true) := by
    rintro ⟨index, path, result⟩ _
    cases result <;> simp
  rw [variablesRequired, List.all_eq_true]
  refine (forall₂_congr hvariable).trans (hall.trans ?_)
  refine forall₂_congr fun input hinput => ?_
  obtain ⟨field, hfield, -⟩ := h input hinput
  simp [hfield]

theorem combineFaults_eq_nil_iff {p : Patch} {ends : Ends} {combine : Combine}
    {destination : String} :
    p.combineFaults ends combine destination = [] ↔
      ∃ toField,
        VariablesResolve combine ends.source (fun _ => True) ∧
        ends.destination.resolveText destination = .ok toField ∧
        (toField.required = true →
          VariablesResolve combine ends.source (·.required = true) ∨
            p.requiresSource = true) ∧
        p.strategyFaults combine toField.type = [] := by
  rw [combineFaults_eq]
  cases ends.destination.resolveText destination with
  | error e => simp
  | ok toField =>
      simp only [Except.ok.injEq]
      cases hun : unresolvedVariables combine ends.source with
      | cons fault rest =>
          have hnot : ¬ VariablesResolve combine ends.source fun _ => True := by
            rw [← unresolvedVariables_eq_nil_iff, hun]
            simp
          simp [hnot]
      | nil =>
          have hres := unresolvedVariables_eq_nil_iff.mp hun
          simp only [hres, true_and, exists_eq_left']
          rw [guarded_eq_nil_iff, variablesRequired_iff hres]

/-! ## The faults of a patch -/

/-- What a patch goes between is a matter of its type. -/
theorem ends?_of_action {p : Patch} {action : PatchAction}
    (h : p.action = .ok action) (composite composed : Schema) :
    p.kind.ends? composite composed = action.ends? composite composed := by
  rw [Patch.action] at h
  rw [PatchType.ends?]
  revert h
  cases p.kind.shape with
  | copy direction =>
      intro h
      dsimp only at h
      split at h <;> cases h
      rfl
  | combine direction =>
      intro h
      dsimp only at h
      split at h
      · cases h
      · split at h
        · cases h
        · split at h <;> cases h
          rfl
  | splice =>
      intro h
      dsimp only at h
      split at h <;> cases h
      rfl

theorem check_eq_map {p : Patch} {action : PatchAction} {path : Path}
    {composite composed : Schema} {ends : Ends} (haction : p.action = .ok action)
    (hends : p.kind.ends? composite composed = some ends) :
    p.check path composite composed =
      (p.actionFaults composite composed action).map (PatchFault.finding path) := by
  have hcheckable : p.kind.isCheckable = true := by
    rw [← PatchType.isSome_ends? composite composed, hends]
    rfl
  simp only [check, hcheckable, haction, Bool.not_true, Bool.false_eq_true, if_false]

/-- A patch between two resources is accepted if its action has no faults. -/
theorem check_eq_nil_iff {p : Patch} {action : PatchAction} {path : Path}
    {composite composed : Schema} {ends : Ends} (haction : p.action = .ok action)
    (hends : p.kind.ends? composite composed = some ends) :
    p.check path composite composed = [] ↔
      p.actionFaults composite composed action = [] := by
  rw [check_eq_map haction hends, List.map_eq_nil_iff]

theorem actionFaults_copy {p : Patch} {composite composed : Schema} {ends : Ends}
    {direction : Direction} {source destination : String}
    (h : direction.ends? composite composed = some ends) :
    p.actionFaults composite composed (.copy direction source destination) =
      p.copyFaults ends source destination := by
  simp only [actionFaults, h]

theorem actionFaults_combine {p : Patch} {composite composed : Schema}
    {ends : Ends} {direction : Direction} {combine : Combine} {destination : String}
    (h : direction.ends? composite composed = some ends) :
    p.actionFaults composite composed (.combine direction combine destination) =
      p.combineFaults ends combine destination := by
  simp only [actionFaults, h]

/-! ## What a fault comes from -/

/-- How a patch with that action comes to a fault. -/
inductive Incurs (p : Patch) (action : PatchAction) : PatchFault → Prop where
  | unresolvedSource {schema : Schema} {text : String} {cause : ResolveError}
      (reads : text ∈ action.sources) (h : schema.resolveText text = .error cause) :
      Incurs p action (.unresolvedSource text cause)
  | unresolvedDestination {schema : Schema} {text : String} {cause : ResolveError}
      (writes : action.destination? = some text) (h : schema.resolveText text = .error cause) :
      Incurs p action (.unresolvedDestination text cause)
  | optionalSource {source destination : String} (reads : source ∈ action.sources)
      (writes : action.destination? = some destination) :
      Incurs p action (.optionalSource source destination)
  | unresolvedVariable {schema : Schema} {combine : Combine} {index : Nat} {text : String}
      {cause : ResolveError} (reads : text ∈ action.sources)
      (h : schema.resolveText text = .error cause) :
      Incurs p action (.unresolvedVariable combine index text cause)
  | optionalVariables {combine : Combine} {destination : String}
      (reads : combine.sources.map (·.fromFieldPath) = action.sources)
      (writes : action.destination? = some destination) :
      Incurs p action (.optionalVariables combine destination)
  | missingStringFormat : Incurs p action .missingStringFormat
  | unknownStrategy {name : String} : Incurs p action (.unknownStrategy name)
  | chain {source destination : Option JsonType} {cause : ChainError}
      (h : Chain.check p.transforms source destination = .error cause) :
      Incurs p action (.chain p.transforms cause)

section Incurs

variable {p : Patch} {action : PatchAction} {ends : Ends} {fault : PatchFault}

theorem incurs_of_mem_chainFaults {source destination : Option JsonType}
    (h : fault ∈ p.chainFaults source destination) : p.Incurs action fault := by
  rw [chainFaults] at h
  split at h
  · cases h
  · next e he =>
      obtain rfl := List.mem_singleton.mp h
      exact .chain he

theorem incurs_of_mem_copyFaults {direction : Direction} {source destination : String}
    (h : fault ∈ p.copyFaults ends source destination) :
    p.Incurs (.copy direction source destination) fault := by
  rw [copyFaults] at h
  split at h
  · next e he =>
      obtain rfl := List.mem_singleton.mp h
      exact .unresolvedSource (List.mem_singleton_self source) he
  · split at h
    · next e he =>
        obtain rfl := List.mem_singleton.mp h
        exact .unresolvedDestination rfl he
    · split at h
      · obtain rfl := List.mem_singleton.mp h
        exact .optionalSource (List.mem_singleton_self source) rfl
      · exact incurs_of_mem_chainFaults h

theorem incurs_of_mem_strategyFaults {combine : Combine} {type : Option JsonType}
    (h : fault ∈ p.strategyFaults combine type) : p.Incurs action fault := by
  rw [strategyFaults] at h
  split at h
  · obtain rfl := List.mem_singleton.mp h
    exact .unknownStrategy
  · split at h
    · obtain rfl := List.mem_singleton.mp h
      exact .missingStringFormat
    · exact incurs_of_mem_chainFaults h

theorem incurs_of_mem_combineFaults {direction : Direction} {combine : Combine}
    {destination : String} (h : fault ∈ p.combineFaults ends combine destination) :
    p.Incurs (.combine direction combine destination) fault := by
  have hunresolved : ∀ fault ∈ unresolvedVariables combine ends.source,
      p.Incurs (.combine direction combine destination) fault := by
    intro fault hfault
    obtain ⟨⟨index, text, result⟩, hmem, hfault⟩ := List.mem_filterMap.mp hfault
    obtain ⟨input, hinput, rfl, rfl⟩ := mem_resolveVariables_iff.mp hmem
    dsimp only at hfault
    split at hfault
    · next e he =>
        cases hfault
        exact .unresolvedVariable (List.mem_map_of_mem (List.mem_of_getElem? hinput)) he
    · cases hfault
  rw [combineFaults_eq] at h
  split at h
  · next e he =>
      rcases List.mem_append.mp h with h | h
      · exact hunresolved fault h
      · obtain rfl := List.mem_singleton.mp h
        exact .unresolvedDestination rfl he
  · split at h
    · obtain rfl := List.mem_singleton.mp h
      exact .optionalVariables rfl rfl
    · exact incurs_of_mem_strategyFaults h
  · exact hunresolved fault h

theorem incurs_of_mem_actionFaults {composite composed : Schema}
    (h : fault ∈ p.actionFaults composite composed action) : p.Incurs action fault := by
  cases action with
  | copy direction source destination =>
      rw [actionFaults] at h
      split at h
      · exact incurs_of_mem_copyFaults h
      · cases h
  | combine direction combine destination =>
      rw [actionFaults] at h
      split at h
      · exact incurs_of_mem_combineFaults h
      · cases h
  | splice name => cases h

end Incurs

end Patch

end ComposeLint
