import ComposeLint.Proofs.Outcomes
import ComposeLint.Transform.Chain

/-!
# A chain, one transform at a time

A chain stops at the first transform that is not complete, that does not take what
it is given, or after which nothing can be told. The lemmas here open one step of
it: what an accepted step has been through (`flow_cons_eq_ok_iff`), and what is left
to do after it (`Chain.resume`). Where nothing can be told any more, nothing is left
to do.
-/

namespace ComposeLint

/-! ## Operations -/

/-- What a transform does, by its type, if all that its type needs is there. -/
inductive Transform.Performs (t : Transform) : Operation → Prop where
  | convert {config : ConvertTransform} (htype : t.type = .convert)
      (hconfig : t.convert = some config) : Performs t (.convert config)
  | math {config : MathTransform} {m : MathOperation} (htype : t.type = .math)
      (hconfig : t.math = some config) (hm : config.operation = .ok m) : Performs t (.math m)
  | string {config : StringTransform} {operation : StringOperation} (htype : t.type = .string)
      (hconfig : t.string = some config) (hoperation : config.operation = .ok operation) :
      Performs t (.string operation)
  | map {pairs : Keyed String Json} (htype : t.type = .map) (hpairs : t.map = some pairs)
      (hne : pairs ≠ []) : Performs t (.map pairs)
  | matching {config : MatchTransform} (htype : t.type = .matching)
      (hconfig : t.matching = some config) (hcheck : config.check = .ok ()) :
      Performs t (.matching config)

theorem TransformError.unless_eq_ok_iff {α : Type} {e : TransformError} {value : Option α}
    {x : α} : e.unless value = .ok x ↔ value = some x := by
  cases value <;> simp [TransformError.unless]

theorem Transform.operation_eq_ok_iff {t : Transform} {op : Operation} :
    t.operation = .ok op ↔ t.Performs op := by
  constructor
  · intro h
    rw [operation] at h
    cases htype : t.type with
    | convert =>
        rw [htype] at h
        cases hconfig : t.convert with
        | none => rw [hconfig] at h; cases h
        | some config => rw [hconfig] at h; cases h; exact .convert htype hconfig
    | math =>
        rw [htype] at h
        obtain ⟨config, hconfig, h⟩ := bind_eq_ok_iff.mp h
        obtain ⟨m, hm, ⟨⟩⟩ := bind_eq_ok_iff.mp h
        exact .math htype (TransformError.unless_eq_ok_iff.mp hconfig) hm
    | string =>
        rw [htype] at h
        obtain ⟨config, hconfig, h⟩ := bind_eq_ok_iff.mp h
        obtain ⟨operation, hoperation, ⟨⟩⟩ := bind_eq_ok_iff.mp h
        exact .string htype (TransformError.unless_eq_ok_iff.mp hconfig) hoperation
    | map =>
        rw [htype] at h
        obtain ⟨pairs, hpairs, h⟩ := bind_eq_ok_iff.mp h
        split at h
        · cases h
        · next hne =>
            cases h
            exact .map htype (TransformError.unless_eq_ok_iff.mp hpairs) (by simpa using hne)
    | matching =>
        rw [htype] at h
        obtain ⟨config, hconfig, h⟩ := bind_eq_ok_iff.mp h
        obtain ⟨_, hcheck, ⟨⟩⟩ := bind_eq_ok_iff.mp h
        exact .matching htype (TransformError.unless_eq_ok_iff.mp hconfig) hcheck
  · intro h
    cases h with
    | convert htype hconfig => rw [operation, htype, hconfig]; rfl
    | math htype hconfig hm =>
        simp only [operation, htype]
        exact bind_eq_ok_iff.mpr ⟨_, TransformError.unless_eq_ok_iff.mpr hconfig,
          bind_eq_ok_iff.mpr ⟨_, hm, rfl⟩⟩
    | string htype hconfig hoperation =>
        simp only [operation, htype]
        exact bind_eq_ok_iff.mpr ⟨_, TransformError.unless_eq_ok_iff.mpr hconfig,
          bind_eq_ok_iff.mpr ⟨_, hoperation, rfl⟩⟩
    | map htype hpairs hne =>
        simp only [operation, htype]
        refine bind_eq_ok_iff.mpr ⟨_, TransformError.unless_eq_ok_iff.mpr hpairs, ?_⟩
        exact if_neg (by simpa using hne)
    | matching htype hconfig hcheck =>
        simp only [operation, htype]
        exact bind_eq_ok_iff.mpr ⟨_, TransformError.unless_eq_ok_iff.mpr hconfig,
          bind_eq_ok_iff.mpr ⟨_, hcheck, rfl⟩⟩

/-- Arithmetic is what transforms of type `math` do, and no others. -/
theorem Transform.type_eq_math_iff {t : Transform} {op : Operation}
    (h : t.operation = .ok op) : t.type = .math ↔ ∃ m, op = .math m := by
  cases operation_eq_ok_iff.mp h <;> simp_all

/-- To a conversion an integer is a number. -/
theorem ConvertFormat.supports_integer (format : ConvertFormat) (target : JsonType) :
    format.supports .integer target = format.supports .number target := by
  cases format <;> rfl

/-- The position of the transform that an error is about, if it is about one. -/
def ChainError.index? : ChainError → Option Nat
  | invalidTransform index _ | inputMismatch index _ _ | unsupportedConversion index _ _ _ =>
    some index
  | transformRequired _ _ | outputMismatch _ _ => none

namespace Operation

variable {op : Operation} {index : Nat} {type : JsonType} {input output : FlowType}

theorem flow_known_eq_ok_iff :
    op.flow index (.known type) = .ok output ↔
      op.accepted.accepts type = true ∧ op.output index (.known type) = .ok output := by
  rw [flow]
  split
  · next h => simp only [h, true_and]
  · next h => simp only [h, reduceCtorEq, Bool.false_eq_true, false_and]

/-- Every operation takes an input of which the type is not known. -/
theorem flow_unknown : op.flow index .unknown = op.output index .unknown := rfl

theorem index?_of_output {e : ChainError} (h : op.output index input = .error e) :
    e.index? = some index := by
  cases op with
  | convert config =>
      cases input with
      | known source =>
          rw [output.eq_def] at h
          dsimp only at h
          split at h <;> cases h
          rfl
      | unknown | any => cases h
  | math _ | string _ | map _ | matching _ => cases h

theorem index?_of_flow {e : ChainError} (h : op.flow index input = .error e) :
    e.index? = some index := by
  cases input with
  | known type =>
      rw [flow] at h
      split at h
      · exact index?_of_output h
      · cases h
        rfl
  | unknown | any =>
      rw [flow] at h
      exact index?_of_output h

end Operation

/-! ## Chains -/

namespace Chain

variable {index : Nat} {input output : FlowType} {t : Transform} {rest : Chain}
  {source destination : Option JsonType}

/-- What comes out of the transforms that are left, given what came out of the one
before them. -/
def resume (index : Nat) (output : FlowType) (rest : Chain) : Except ChainError FlowType :=
  match output with
  | .any => .ok .any
  | output => flow index output rest

theorem flow_cons :
    flow index input (t :: rest) =
      t.operation.mapError (ChainError.invalidTransform index) >>= fun op =>
        op.flow index input >>= fun output => resume (index + 1) output rest := by
  rw [flow]
  -- The equation splits on what comes out, `resume` only on whether anything can be told.
  refine bind_congr fun op => bind_congr fun output => ?_
  cases output <;> rfl

theorem flow_cons_eq_ok_iff :
    flow index input (t :: rest) = .ok output ↔
      ∃ op middle, t.operation = .ok op ∧ op.flow index input = .ok middle ∧
        resume (index + 1) middle rest = .ok output := by
  simp only [flow_cons, bind_eq_ok_iff, mapError_eq_ok_iff, exists_and_left]

theorem check_eq_ok_iff {transforms : Chain} :
    check transforms source destination = .ok () ↔
      ∃ output, flow 0 (.ofType? source) transforms = .ok output ∧
        ∀ type, destination = some type →
          checkDestination transforms source output type = .ok () := by
  rw [check, bind_eq_ok_iff]
  refine exists_congr fun output => and_congr_right' ?_
  cases destination <;> simp [pure, Except.pure]

/-- What comes out must fit the destination, if both are known. -/
def checkOutput (output : FlowType) (destination : Option JsonType) : Except ChainError Unit :=
  match output, destination with
  | .known type, some destination =>
    if type.fits destination then .ok () else .error (.outputMismatch type destination)
  | _, _ => .ok ()

theorem checkOutput_eq_ok_iff :
    checkOutput output destination = .ok () ↔
      ∀ type, output = .known type → ∀ expected ∈ destination, type.fits expected = true := by
  cases output with
  | known type =>
      cases destination with
      | none => exact iff_of_true rfl nofun
      | some expected =>
          rw [checkOutput]
          split
          · next h =>
              refine iff_of_true rfl ?_
              rintro _ ⟨⟩ _ ⟨⟩
              exact h
          · next h => exact iff_of_false nofun fun hall => h (hall type rfl expected rfl)
  | unknown | any => exact iff_of_true rfl nofun

/-- The source is compared with the destination only if there are no transforms. -/
theorem check_of_ne_nil {chain : Chain} (h : chain ≠ []) (source destination : Option JsonType) :
    check chain source destination =
      flow 0 (.ofType? source) chain >>= fun output => checkOutput output destination := by
  obtain ⟨t, rest, rfl⟩ := List.exists_cons_of_ne_nil h
  rw [check]
  refine bind_congr fun output => ?_
  cases destination <;> cases output <;> rfl

theorem check_cons_of_flow (source : Option JsonType)
    (h : flow 0 (.ofType? source) (t :: rest) = .ok output) :
    check (t :: rest) source destination = checkOutput output destination := by
  rw [check_of_ne_nil (List.cons_ne_nil t rest), h]
  rfl

/-- Without transforms the source itself has to fit. -/
theorem check_nil_eq_ok_iff {source destination : JsonType} :
    check [] (some source) (some destination) = .ok () ↔ source.fits destination = true := by
  change checkDestination [] (some source) (.known source) destination = .ok () ↔ _
  rw [checkDestination, if_pos List.isEmpty_nil]
  split
  · next h => exact iff_of_true rfl h
  · next h => exact iff_of_false nofun h

/-- Without a destination the types only have to flow. -/
theorem check_none (chain : Chain) (source : Option JsonType) :
    check chain source none = flow 0 (.ofType? source) chain >>= fun _ => .ok () := rfl

theorem exists_index_of_flow {chain : Chain} {e : ChainError}
    (h : flow index input chain = .error e) :
    ∃ i, i < chain.length ∧ e.index? = some (index + i) := by
  induction chain generalizing index input with
  | nil => cases h
  | cons t rest ih =>
      have hfirst : 0 < (t :: rest).length := Nat.succ_pos _
      rw [flow_cons] at h
      rcases bind_eq_error_iff.mp h with h | ⟨op, -, h⟩
      · obtain ⟨cause, -, rfl⟩ := mapError_eq_error_iff.mp h
        exact ⟨0, hfirst, rfl⟩
      · rcases bind_eq_error_iff.mp h with h | ⟨middle, -, h⟩
        · exact ⟨0, hfirst, Operation.index?_of_flow h⟩
        · cases middle with
          | any => cases h
          | known _ | unknown =>
              obtain ⟨i, hi, hindex⟩ := ih h
              refine ⟨i + 1, Nat.succ_lt_succ hi, ?_⟩
              rw [hindex, Nat.add_assoc, Nat.add_comm 1 i]

theorem index?_of_checkDestination {chain : Chain} {type : JsonType} {e : ChainError}
    (h : checkDestination chain source output type = .error e) : e.index? = none := by
  rw [checkDestination.eq_def] at h
  split at h
  · split at h
    · split at h <;> cases h
      rfl
    · cases h
  · split at h
    · split at h <;> cases h
      rfl
    · cases h
    · cases h

/-- An error that is about one transform is about one of the chain. -/
theorem index_lt_of_check {chain : Chain} {e : ChainError} {i : Nat}
    (h : check chain source destination = .error e) (hi : e.index? = some i) :
    i < chain.length := by
  rw [check] at h
  rcases bind_eq_error_iff.mp h with h | ⟨output, -, h⟩
  · obtain ⟨j, hj, hindex⟩ := exists_index_of_flow h
    rw [hi, Nat.zero_add, Option.some.injEq] at hindex
    exact hindex ▸ hj
  · cases destination with
    | none => cases h
    | some type =>
        rw [index?_of_checkDestination h] at hi
        cases hi

end Chain

/-! ## Two transforms -/

/-- Doubles a number. -/
def Transform.doubling : Transform where
  type := .math
  math := some ⟨none, some 2, none, none⟩
  map := none
  matching := none
  string := none
  convert := none

/-- Writes a value as a text. -/
def Transform.toText : Transform where
  type := .convert
  math := none
  map := none
  matching := none
  string := none
  convert := some ⟨.string, none⟩

end ComposeLint
