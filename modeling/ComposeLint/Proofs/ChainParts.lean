import ComposeLint.Proofs.ChainFlow

/-!
# A chain in two parts

A chain that is cut in two is checked part by part (`check_append`): where the first
part is wrong, so is the chain, and in the same way; where after the first part
nothing can be told, the chain is accepted; and otherwise the chain is right if the
second part is, from the type that the last transform of the first part gives. The
errors of the second part are those of the chain but for the position, which counts
the transforms of the first part too.

To say what the first part does, `Chain.outputs` lists what each of its transforms
gives. A transform never gives a type that is merely not known: what comes out of it
is a type, or cannot be told from the transforms at all. So the second part starts
from an unknown type only if the first has no transforms.
-/

namespace ComposeLint

namespace ChainError

/-- The error where that many more transforms stand before the chain. -/
def shift (offset : Nat) : ChainError → ChainError
  | invalidTransform index cause => invalidTransform (index + offset) cause
  | inputMismatch index expected actual => inputMismatch (index + offset) expected actual
  | unsupportedConversion index source target format =>
    unsupportedConversion (index + offset) source target format
  | transformRequired source destination => transformRequired source destination
  | outputMismatch output destination => outputMismatch output destination

end ChainError

theorem FlowType.common_ne_unknown (types : List JsonType) : common types ≠ .unknown := by
  cases types with
  | nil => nofun
  | cons type rest =>
      rw [common]
      split <;> nofun

theorem MatchTransform.output_ne_unknown (t : MatchTransform) (input : FlowType) :
    t.output input ≠ .unknown := by
  rw [output.eq_def]
  split
  · cases input with
    | known type => exact FlowType.common_ne_unknown _
    | unknown | any => nofun
  · exact FlowType.common_ne_unknown _

namespace Operation

variable {op : Operation} {index : Nat} {input output : FlowType}

theorem output_ne_unknown (h : op.output index input = .ok output) : output ≠ .unknown := by
  rintro rfl
  cases op with
  | convert config =>
      cases input with
      | known source =>
          rw [Operation.output] at h
          split at h <;> cases h
      | unknown | any => cases h
  | math m => cases input <;> cases h
  | string operation => cases h
  | map pairs =>
      injection h with h
      exact FlowType.common_ne_unknown _ h
  | matching config =>
      injection h with h
      exact config.output_ne_unknown input h

theorem flow_ne_unknown (h : op.flow index input = .ok output) : output ≠ .unknown := by
  cases input with
  | known type => exact output_ne_unknown (flow_known_eq_ok_iff.mp h).2
  | unknown | any =>
      rw [flow] at h
      exact output_ne_unknown h

/-- What an operation makes of its input does not depend on where it stands. -/
theorem output_shift (op : Operation) (index offset : Nat) (input : FlowType) :
    op.output (index + offset) input = (op.output index input).mapError (.shift offset) := by
  cases op with
  | convert config =>
      cases input with
      | known source =>
          simp only [Operation.output]
          split <;> rfl
      | unknown | any => rfl
  | math m => rfl
  | string operation => rfl
  | map pairs => rfl
  | matching config => rfl

theorem flow_shift (op : Operation) (index offset : Nat) (input : FlowType) :
    op.flow (index + offset) input = (op.flow index input).mapError (.shift offset) := by
  cases input with
  | known type =>
      simp only [flow, output_shift]
      split <;> rfl
  | unknown => exact output_shift op index offset .unknown
  | any => exact output_shift op index offset .any

end Operation

namespace Chain

variable {first second chain : Chain} {index : Nat} {input output : FlowType}
  {source destination : Option JsonType}

/-! ## Errors keep their place in the chain -/

theorem flow_shift (chain : Chain) (index offset : Nat) (input : FlowType) :
    flow (index + offset) input chain = (flow index input chain).mapError (.shift offset) := by
  induction chain generalizing index input with
  | nil => rfl
  | cons t rest ih =>
      have hresume (output : FlowType) : resume (index + offset + 1) output rest =
          (resume (index + 1) output rest).mapError (.shift offset) := by
        cases output with
        | any => rfl
        | known _ | unknown => rw [Nat.add_right_comm]; exact ih ..
      simp only [flow_cons, mapError_bind, Operation.flow_shift, hresume, mapError_mapError]
      rfl

/-! ## What the transforms give -/

/-- What each transform gives, up to the first after which nothing can be told. -/
def outputs (index : Nat) (input : FlowType) : Chain → Except ChainError (List FlowType)
  | [] => .ok []
  | transform :: rest => do
    let operation ← transform.operation.mapError (ChainError.invalidTransform index)
    let output ← operation.flow index input
    let later ← (if output = .any then .ok [] else outputs (index + 1) output rest)
    return output :: later

theorem outputs_cons_eq_ok_iff {t : Transform} {rest : Chain} {given : List FlowType} :
    outputs index input (t :: rest) = .ok given ↔
      ∃ op output later, t.operation = .ok op ∧ op.flow index input = .ok output ∧
        (if output = .any then .ok [] else outputs (index + 1) output rest) = .ok later ∧
        output :: later = given := by
  simp only [outputs, bind_eq_ok_iff, mapError_eq_ok_iff, pure, Except.pure, Except.ok.injEq,
    exists_and_left]

/-- What comes out of a chain is what the last of its transforms gives. -/
theorem flow_eq_outputs (chain : Chain) (index : Nat) (input : FlowType) :
    flow index input chain = (fun given => given.getLastD input) <$> outputs index input chain := by
  induction chain generalizing index input with
  | nil => rfl
  | cons t rest ih =>
      rw [flow_cons, outputs, map_bind]
      refine bind_congr fun op => ?_
      rw [map_bind]
      refine bind_congr fun output => ?_
      rw [bind_pure_comp, Functor.map_map]
      simp only [List.getLastD_cons]
      cases output with
      | any => rfl
      | known type => exact ih ..
      | unknown => exact ih ..

/-- Nothing is given after a transform of which it cannot be told what it gives. -/
theorem getLast?_of_any_mem {given : List FlowType} (h : outputs index input chain = .ok given)
    (hany : .any ∈ given) : given.getLast? = some .any := by
  induction chain generalizing index input given with
  | nil =>
      cases h
      cases hany
  | cons t rest ih =>
      obtain ⟨op, output, later, -, -, hlater, rfl⟩ := outputs_cons_eq_ok_iff.mp h
      split at hlater
      · next houtput =>
          cases hlater
          rw [houtput, List.getLast?_singleton]
      · next houtput =>
          have hrest := (List.mem_cons.mp hany).resolve_left (Ne.symm houtput)
          rw [List.getLast?_cons, ih hlater hrest, Option.getD_some]

/-- If all that is given can be told, every transform gives a type. -/
theorem exists_types_of_outputs {given : List FlowType}
    (h : outputs index input chain = .ok given) (hany : .any ∉ given) :
    ∃ types : List JsonType, given = types.map .known ∧ types.length = chain.length := by
  induction chain generalizing index input given with
  | nil =>
      cases h
      exact ⟨[], rfl, rfl⟩
  | cons t rest ih =>
      obtain ⟨op, output, later, -, houtput, hlater, rfl⟩ := outputs_cons_eq_ok_iff.mp h
      rw [List.mem_cons, not_or] at hany
      rw [if_neg (Ne.symm hany.1)] at hlater
      obtain ⟨types, rfl, hlength⟩ := ih hlater hany.2
      cases output with
      | known type => exact ⟨type :: types, rfl, congrArg (· + 1) hlength⟩
      | unknown => exact absurd rfl (Operation.flow_ne_unknown houtput)
      | any => exact absurd rfl hany.1

/-! ## One part after the other -/

theorem flow_append (second : Chain) (hinput : input ≠ .any) :
    flow index input (first ++ second) =
      flow index input first >>= fun output =>
        resume (index + first.length) output second := by
  induction first generalizing index input with
  | nil =>
      cases input with
      | any => exact absurd rfl hinput
      | known _ | unknown => rfl
  | cons t rest ih =>
      rw [List.cons_append, flow_cons, flow_cons, bind_assoc]
      refine bind_congr fun op => ?_
      rw [bind_assoc]
      refine bind_congr fun output => ?_
      rw [List.length_cons, ← Nat.add_assoc, Nat.add_right_comm]
      cases output with
      | any => rfl
      | known _ => exact ih nofun
      | unknown => exact ih nofun

theorem resume_ofType? (index : Nat) (type : Option JsonType) (rest : Chain) :
    resume index (.ofType? type) rest = flow index (.ofType? type) rest := by
  cases type <;> rfl

theorem checkOutput_mapError_shift (output : FlowType) (destination : Option JsonType)
    (offset : Nat) :
    (checkOutput output destination).mapError (.shift offset) = checkOutput output destination := by
  cases output with
  | known type =>
      cases destination with
      | none => rfl
      | some destination =>
          rw [checkOutput]
          split <;> rfl
  | unknown | any => rfl

/-- From a type that the source may have, the rest of a chain is checked as a chain of its
own. -/
theorem resume_ofType?_eq_check (hsecond : second ≠ []) (offset : Nat)
    (source destination : Option JsonType) :
    (resume offset (.ofType? source) second >>= fun output => checkOutput output destination) =
      (check second source destination).mapError (.shift offset) := by
  rw [resume_ofType?, check_of_ne_nil hsecond, mapError_bind, ← flow_shift, Nat.zero_add]
  simp only [checkOutput_mapError_shift]

theorem check_none_eq_bind (chain : Chain) (source : Option JsonType) :
    check chain source none = outputs 0 (.ofType? source) chain >>= fun _ => .ok () := by
  rw [check_none, flow_eq_outputs, bind_map_left]

/-- The second part is checked from what the last transform of the first gives. -/
theorem check_append_eq_bind (first : Chain) (hsecond : second ≠ [])
    (source destination : Option JsonType) :
    check (first ++ second) source destination =
      outputs 0 (.ofType? source) first >>= fun given =>
        resume first.length (given.getLastD (.ofType? source)) second >>= fun output =>
          checkOutput output destination := by
  have hsource : FlowType.ofType? source ≠ .any := by cases source <;> nofun
  rw [check_of_ne_nil (List.append_ne_nil_of_right_ne_nil first hsecond),
    flow_append second hsource, flow_eq_outputs, Nat.zero_add, bind_assoc, bind_map_left]

theorem getLastD_map_known (types : List JsonType) (source : Option JsonType) :
    (types.map FlowType.known).getLastD (.ofType? source) =
      .ofType? (types.getLast?.or source) := by
  rw [List.getLastD_eq_getLast?, List.getLast?_map]
  cases types.getLast? <;> rfl

/-- A chain is checked part by part. -/
theorem check_append (hsecond : second ≠ []) (source destination : Option JsonType) :
    (∀ e, check first source none = .error e →
        check (first ++ second) source destination = .error e) ∧
      (check first source none = .ok () →
        ∃ given, outputs 0 (.ofType? source) first = .ok given ∧
          if .any ∈ given then check (first ++ second) source destination = .ok ()
          else
            ∃ types : List JsonType, given = types.map .known ∧ types.length = first.length ∧
              check (first ++ second) source destination =
                (check second (types.getLast?.or source) destination).mapError
                  (.shift first.length)) := by
  rw [check_none_eq_bind, check_append_eq_bind first hsecond]
  cases hgiven : outputs 0 (.ofType? source) first with
  | error e => exact ⟨fun _ he => he, nofun⟩
  | ok given =>
      refine ⟨nofun, fun _ => ⟨given, rfl, ?_⟩⟩
      split
      · next hany =>
          have hlast : given.getLastD (.ofType? source) = .any := by
            rw [List.getLastD_eq_getLast?, getLast?_of_any_mem hgiven hany, Option.getD_some]
          change resume first.length (given.getLastD (.ofType? source)) second >>= _ = _
          rw [hlast]
          rfl
      · next hany =>
          obtain ⟨types, rfl, hlength⟩ := exists_types_of_outputs hgiven hany
          refine ⟨types, rfl, hlength, ?_⟩
          rw [← resume_ofType?_eq_check hsecond, ← getLastD_map_known]
          rfl

/-- What is written as a text cannot be doubled, and the second transform is the one to
blame. -/
theorem check_append_toText :
    check [.toText] (some .integer) none = .ok () ∧
      check [.toText, .doubling] (some .integer) none =
        (check [.doubling] (some .string) none).mapError (.shift 1) ∧
      check [.toText, .doubling] (some .integer) none =
        .error (.inputMismatch 1 .numeric .string) := by
  have hfirst : check [.toText] (some .integer) none = .ok () := rfl
  have hgiven : outputs 0 (.known .integer) [.toText] = .ok [.known .string] := rfl
  obtain ⟨given, hgiven', h⟩ :=
    (check_append (List.cons_ne_nil .doubling []) (some .integer) none).2 hfirst
  obtain rfl : [.known .string] = given := Except.ok.inj (hgiven.symm.trans hgiven')
  rw [if_neg (by decide)] at h
  obtain ⟨types, htypes, -, hcheck⟩ := h
  obtain rfl : [.string] = types :=
    List.map_injective_iff.mpr (fun _ _ => FlowType.known.inj) htypes
  exact ⟨hfirst, hcheck, hcheck⟩

end Chain

end ComposeLint
