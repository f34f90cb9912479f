import ComposeLint.Proofs.ChainFlow

/-!
# Chains from a source of unknown type

A type that is not known is taken by every transform, so one should think that a
chain that is accepted for some type of its source is accepted also where that type
is not known. That is so with one exception (`check_none_of_check_some`).

The exception is arithmetic. Its result has the type of what it is given, and is
taken for a number where that is not known. A chain of nothing but arithmetic turns
integers into integers, and a source of unknown type into a number, which does not
fit where an integer is asked for. Any other transform settles the matter: what it
gives does not depend on which of the types that it takes it was given, or else
cannot be told.
-/

namespace ComposeLint

theorem StringOperation.accepts_of_accepts_integer {operation : StringOperation}
    (h : operation.accepted.accepts .integer = true) (type : JsonType) :
    operation.accepted.accepts type = true := by
  cases operation with
  | format _ => rfl
  | convert conversion =>
      cases conversion with
      | toUpper | toLower | toBase64 | fromBase64 => cases h
      | toJson | toSha1 | toSha256 | toSha512 | toAdler32 => rfl
  | trimPrefix _ | trimSuffix _ | regexp _ | join _ => cases h

/-- Only a match that falls back to its input looks at the type of the input. -/
theorem MatchTransform.output_eq_or {t : MatchTransform} (input : FlowType) :
    t.output .unknown = t.output input ∨ t.output .unknown = .any := by
  unfold output
  split
  · exact .inr rfl
  · exact .inl rfl

namespace Operation

variable {op : Operation} {index : Nat} {type : JsonType} {output : FlowType}

theorem flow_math_known {m : MathOperation}
    (h : (math m).flow index (.known type) = .ok output) :
    (type = .integer ∨ type = .number) ∧ output = .known type := by
  obtain ⟨haccepts, ⟨⟩⟩ := flow_known_eq_ok_iff.mp h
  refine ⟨?_, rfl⟩
  cases type <;> first | exact .inl rfl | exact .inr rfl | cases haccepts

theorem flow_math_number (m : MathOperation) :
    (math m).flow index (.known .number) = .ok (.known .number) := rfl

theorem flow_math_unknown (m : MathOperation) :
    (math m).flow index .unknown = .ok (.known .number) := rfl

theorem flow_number_of_flow_integer (hop : ∀ m, op ≠ math m)
    (h : op.flow index (.known .integer) = .ok output) :
    op.flow index (.known .number) = .ok output := by
  obtain ⟨haccepts, houtput⟩ := flow_known_eq_ok_iff.mp h
  refine flow_known_eq_ok_iff.mpr ?_
  cases op with
  | convert config =>
      refine ⟨rfl, ?_⟩
      simp only [Operation.output, ConvertFormat.supports_integer] at houtput ⊢
      split at houtput
      · next hsupports => rw [if_pos hsupports]; exact houtput
      · cases houtput
  | math m => exact absurd rfl (hop m)
  | string operation =>
      -- What takes integers takes any type, and what comes out does not depend on it.
      exact ⟨StringOperation.accepts_of_accepts_integer haccepts .number, houtput⟩
  | map pairs => cases haccepts
  | matching config => cases haccepts

/-- Of an input of unknown type an operation other than arithmetic makes what it makes
of an input that it takes, if that can be told. -/
theorem flow_unknown_of_flow_known (hop : ∀ m, op ≠ math m)
    (h : op.flow index (.known type) = .ok output) :
    op.flow index .unknown = .ok output ∨ op.flow index .unknown = .ok .any := by
  obtain ⟨-, houtput⟩ := flow_known_eq_ok_iff.mp h
  rw [flow_unknown]
  cases op with
  | convert config =>
      simp only [Operation.output] at houtput
      split at houtput
      · exact .inl houtput
      · cases houtput
  | math m => exact absurd rfl (hop m)
  | string operation => exact .inl houtput
  | map pairs => exact .inl houtput
  | matching config =>
      rw [← houtput]
      exact (config.output_eq_or _).imp (congrArg Except.ok) (congrArg Except.ok)

end Operation

namespace Chain

variable {chain : Chain} {index : Nat} {type : JsonType} {output : FlowType}

/-- All transforms of the chain do arithmetic. -/
def IsArithmetic (chain : Chain) : Prop := ∀ t ∈ chain, t.type = .math

instance (chain : Chain) : Decidable chain.IsArithmetic :=
  inferInstanceAs (Decidable (∀ t ∈ chain, t.type = .math))

/-! ## Arithmetic -/

theorem flow_of_isArithmetic (hchain : chain.IsArithmetic)
    (h : flow index (.known type) chain = .ok output) :
    output = .known type ∧ flow index (.known .number) chain = .ok (.known .number) := by
  -- Every step keeps the type it is given, so both runs go on as they began.
  induction chain generalizing index with
  | nil =>
      cases h
      exact ⟨rfl, rfl⟩
  | cons t rest ih =>
      obtain ⟨hmath, hrest⟩ := List.forall_mem_cons.mp hchain
      obtain ⟨op, middle, hop, hmiddle, hresume⟩ := flow_cons_eq_ok_iff.mp h
      obtain ⟨m, rfl⟩ := (Transform.type_eq_math_iff hop).mp hmath
      obtain ⟨-, rfl⟩ := Operation.flow_math_known hmiddle
      obtain ⟨houtput, hnumber⟩ := ih hrest hresume
      exact ⟨houtput, flow_cons_eq_ok_iff.mpr
        ⟨_, _, hop, Operation.flow_math_number m, hnumber⟩⟩

/-- Arithmetic on integers or numbers gives what it takes, and a number where it is not
known what it takes. -/
theorem flow_unknown_of_isArithmetic (hne : chain ≠ []) (hchain : chain.IsArithmetic)
    (h : flow index (.known type) chain = .ok output) :
    (type = .integer ∨ type = .number) ∧ output = .known type ∧
      flow index .unknown chain = .ok (.known .number) := by
  obtain ⟨houtput, -⟩ := flow_of_isArithmetic hchain h
  cases chain with
  | nil => exact absurd rfl hne
  | cons t rest =>
      obtain ⟨hmath, hrest⟩ := List.forall_mem_cons.mp hchain
      obtain ⟨op, middle, hop, hmiddle, hresume⟩ := flow_cons_eq_ok_iff.mp h
      obtain ⟨m, rfl⟩ := (Transform.type_eq_math_iff hop).mp hmath
      obtain ⟨htype, rfl⟩ := Operation.flow_math_known hmiddle
      obtain ⟨-, hnumber⟩ := flow_of_isArithmetic hrest hresume
      exact ⟨htype, houtput, flow_cons_eq_ok_iff.mpr
        ⟨_, _, hop, Operation.flow_math_unknown m, hnumber⟩⟩

/-! ## All other chains -/

/-- A chain that does more than arithmetic makes of a number what it makes of an
integer. -/
theorem flow_number_of_not_isArithmetic (hchain : ¬ chain.IsArithmetic)
    (h : flow index (.known .integer) chain = .ok output) :
    flow index (.known .number) chain = .ok output := by
  induction chain generalizing index with
  | nil => exact absurd (fun _ => nofun) hchain
  | cons t rest ih =>
      obtain ⟨op, middle, hop, hmiddle, hresume⟩ := flow_cons_eq_ok_iff.mp h
      refine flow_cons_eq_ok_iff.mpr ?_
      by_cases hmath : t.type = .math
      · -- The types stay apart, and what settles them is yet to come.
        obtain ⟨m, rfl⟩ := (Transform.type_eq_math_iff hop).mp hmath
        obtain ⟨-, rfl⟩ := Operation.flow_math_known hmiddle
        have hrest : ¬ IsArithmetic rest := fun hrest =>
          hchain (List.forall_mem_cons.mpr ⟨hmath, hrest⟩)
        exact ⟨_, _, hop, Operation.flow_math_number m, ih hrest hresume⟩
      · rw [Transform.type_eq_math_iff hop, not_exists] at hmath
        exact ⟨op, middle, hop, Operation.flow_number_of_flow_integer hmath hmiddle, hresume⟩

/-- A chain that does more than arithmetic makes of a source of unknown type what it
makes of one of a type that it takes, if that can be told. -/
theorem flow_unknown_of_not_isArithmetic (hchain : ¬ chain.IsArithmetic)
    (h : flow index (.known type) chain = .ok output) :
    flow index .unknown chain = .ok output ∨ flow index .unknown chain = .ok .any := by
  cases chain with
  | nil => exact absurd (fun _ => nofun) hchain
  | cons t rest =>
      obtain ⟨op, middle, hop, hmiddle, hresume⟩ := flow_cons_eq_ok_iff.mp h
      rw [flow_cons_eq_ok_iff, flow_cons_eq_ok_iff]
      by_cases hmath : t.type = .math
      · obtain ⟨m, rfl⟩ := (Transform.type_eq_math_iff hop).mp hmath
        obtain ⟨htype, rfl⟩ := Operation.flow_math_known hmiddle
        refine .inl ⟨_, _, hop, Operation.flow_math_unknown m, ?_⟩
        rcases htype with rfl | rfl
        · have hrest : ¬ IsArithmetic rest := fun hrest =>
            hchain (List.forall_mem_cons.mpr ⟨hmath, hrest⟩)
          exact flow_number_of_not_isArithmetic hrest hresume
        · exact hresume
      · rw [Transform.type_eq_math_iff hop, not_exists] at hmath
        rcases Operation.flow_unknown_of_flow_known hmath hmiddle with hsame | hany
        · exact .inl ⟨op, middle, hop, hsame, hresume⟩
        · exact .inr ⟨op, .any, hop, hany, rfl⟩

/-! ## The verdict -/

/-- A number in the place of what arithmetic gives fits where that fits, unless both it
and the destination are integers. -/
theorem checkOutput_number {destination : Option JsonType}
    (htype : type = .integer ∨ type = .number)
    (h : checkOutput (.known type) destination = .ok ()) :
    checkOutput (.known .number) destination =
      if type = .integer ∧ destination = some .integer then
        .error (.outputMismatch .number .integer)
      else .ok () := by
  rcases htype with rfl | rfl
  · cases destination with
    | none => rfl
    | some destination => cases destination <;> first | rfl | cases h
  · rw [h, if_neg nofun]

/-- A chain that is accepted for a source of a known type is accepted for a source of
unknown type, but for arithmetic alone from integer to integer: there a number comes
out. -/
theorem check_none_of_check_some {destination : Option JsonType}
    (h : check chain (some type) destination = .ok ()) :
    check chain none destination =
      if chain ≠ [] ∧ chain.IsArithmetic ∧ type = .integer ∧ destination = some .integer then
        .error (.outputMismatch .number .integer)
      else .ok () := by
  cases chain with
  | nil =>
      rw [if_neg (fun hand => hand.1 rfl)]
      cases destination <;> rfl
  | cons t rest =>
      obtain ⟨output, hflow, -⟩ := check_eq_ok_iff.mp h
      rw [check_cons_of_flow (some type) hflow] at h
      by_cases hchain : IsArithmetic (t :: rest)
      · obtain ⟨htype, rfl, hunknown⟩ :=
          flow_unknown_of_isArithmetic (List.cons_ne_nil t rest) hchain hflow
        rw [check_cons_of_flow none hunknown, checkOutput_number htype h]
        simp only [ne_eq, List.cons_ne_nil, not_false_eq_true, hchain, true_and]
      · rw [if_neg (fun hand => hchain hand.2.1)]
        rcases flow_unknown_of_not_isArithmetic hchain hflow with hsame | hany
        · rw [check_cons_of_flow none hsame, h]
        · rw [check_cons_of_flow none hany]
          rfl

/-- The text settles the type, whatever was doubled. -/
theorem check_none_of_check_some_toText :
    check [.doubling, .toText] (some .integer) (some .string) = .ok () ∧
      check [.doubling, .toText] none (some .string) = .ok () := by
  have h : check [.doubling, .toText] (some .integer) (some .string) = .ok () := rfl
  exact ⟨h, (check_none_of_check_some h).trans (if_neg (by decide))⟩

/-- Doubling an integer gives one, doubling what is not known need not. -/
theorem not_check_none_of_check_some :
    ¬ ∀ (chain : Chain) (type : JsonType) (destination : Option JsonType),
      check chain (some type) destination = .ok () → check chain none destination = .ok () := by
  intro h
  have hunknown := h [.doubling] .integer (some .integer) rfl
  cases hunknown

end Chain

end ComposeLint
