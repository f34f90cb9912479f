import ComposeLint.Proofs.ChainFlow

/-!
# Chains from a source of a narrower type

An integer may stand wherever a number is asked for. A chain of transforms keeps to
that: what is accepted from a type is accepted from every type that fits it, and what
is accepted for a type of the destination is accepted for every type that this fits
(`check_of_fits`).

Two runs of the chain are compared, one from each type. The types that flow through
them are the same up to the first transform that tells the narrower from the wider,
and from there on the narrower one fits the wider one, which is what
`FlowType.Fits` says and every operation keeps. Only arithmetic passes the difference
on: every other operation gives what it gives whichever of the two it takes. A match
may fall back to its input, but is never given anything but texts.
-/

namespace ComposeLint

/-- What an operation takes it also takes narrower. -/
theorem Accepted.accepts_of_fits {accepted : Accepted} {a b : JsonType}
    (h : a.fits b = true) (hb : accepted.accepts b = true) : accepted.accepts a = true := by
  cases accepted with
  | anything => rfl
  | oneOf types =>
      rw [accepts, List.any_eq_true] at hb ⊢
      obtain ⟨type, htype, hfits⟩ := hb
      exact ⟨type, htype, JsonType.fits_trans h hfits⟩

theorem Accepted.eq_of_accepts_string {type : JsonType}
    (h : Accepted.string.accepts type = true) : type = .string := by
  cases type <;> first | rfl | cases h

theorem ConvertFormat.supports_of_fits {format : ConvertFormat} {a b target : JsonType}
    (h : a.fits b = true) (hb : format.supports b target = true) :
    format.supports a target = true := by
  obtain rfl | ⟨rfl, rfl⟩ := JsonType.fits_iff.mp h
  · exact hb
  · rw [supports_integer, hb]

/-- As much is known of the first as of the second, and of two types the first fits the
second. -/
inductive FlowType.Fits : FlowType → FlowType → Prop where
  | same (type : FlowType) : Fits type type
  | known {a b : JsonType} (h : a.fits b = true) : Fits (known a) (known b)

/-- An operation gives something narrower for a narrower input. -/
theorem Operation.flow_of_fits {op : Operation} {index : Nat} {input wider output : FlowType}
    (h : input.Fits wider) (hflow : op.flow index wider = .ok output) :
    ∃ output', op.flow index input = .ok output' ∧ output'.Fits output := by
  cases h with
  | same => exact ⟨output, hflow, .same output⟩
  | @known a b h =>
      obtain ⟨haccepts, houtput⟩ := flow_known_eq_ok_iff.mp hflow
      have haccepts' := Accepted.accepts_of_fits h haccepts
      cases op with
      | convert config =>
          simp only [Operation.output] at houtput
          split at houtput
          · next hsupports =>
              cases houtput
              exact ⟨_, flow_known_eq_ok_iff.mpr
                ⟨haccepts', if_pos (ConvertFormat.supports_of_fits h hsupports)⟩, .same _⟩
          · cases houtput
      | math m =>
          cases houtput
          exact ⟨.known a, flow_known_eq_ok_iff.mpr ⟨haccepts', rfl⟩, .known h⟩
      | string operation =>
          exact ⟨output, flow_known_eq_ok_iff.mpr ⟨haccepts', houtput⟩, .same output⟩
      | map pairs =>
          exact ⟨output, flow_known_eq_ok_iff.mpr ⟨haccepts', houtput⟩, .same output⟩
      | matching config =>
          -- Only texts get here, and nothing is narrower than a text.
          obtain rfl : a = .string := Accepted.eq_of_accepts_string haccepts'
          obtain rfl : b = .string := Accepted.eq_of_accepts_string haccepts
          exact ⟨output, hflow, .same output⟩

namespace Chain

variable {chain : Chain} {index : Nat} {input wider output : FlowType}
  {source source' destination : JsonType} {destination' : Option JsonType}

theorem flow_of_fits (h : input.Fits wider) (hflow : flow index wider chain = .ok output) :
    ∃ output', flow index input chain = .ok output' ∧ output'.Fits output := by
  induction chain generalizing index input wider with
  | nil =>
      cases hflow
      exact ⟨input, rfl, h⟩
  | cons t rest ih =>
      obtain ⟨op, middle, hop, hmiddle, hresume⟩ := flow_cons_eq_ok_iff.mp hflow
      obtain ⟨middle', hmiddle', hfits⟩ := Operation.flow_of_fits h hmiddle
      cases hfits with
      | same =>
          exact ⟨output, flow_cons_eq_ok_iff.mpr ⟨op, middle, hop, hmiddle', hresume⟩,
            .same output⟩
      | known hfits =>
          obtain ⟨output', hrest, houtput⟩ := ih (.known hfits) hresume
          exact ⟨output', flow_cons_eq_ok_iff.mpr ⟨op, _, hop, hmiddle', hrest⟩, houtput⟩

theorem checkOutput_of_fits (h : output.Fits wider)
    (hdestination : ∀ type ∈ destination', destination.fits type = true)
    (hwider : checkOutput wider (some destination) = .ok ()) :
    checkOutput output destination' = .ok () := by
  rw [checkOutput_eq_ok_iff] at hwider ⊢
  intro type houtput expected hexpected
  refine JsonType.fits_trans ?_ (hdestination expected hexpected)
  cases h with
  | same => exact hwider type houtput destination rfl
  | known hfits =>
      cases houtput
      exact JsonType.fits_trans hfits (hwider _ rfl destination rfl)

/-- What a chain accepts it accepts from a narrower source and for a wider destination. -/
theorem check_of_fits (hsource : source'.fits source = true)
    (hdestination : ∀ type ∈ destination', destination.fits type = true)
    (h : check chain (some source) (some destination) = .ok ()) :
    check chain (some source') destination' = .ok () := by
  cases chain with
  | nil =>
      cases destination' with
      | none => rfl
      | some type =>
          have hfits := JsonType.fits_trans hsource (check_nil_eq_ok_iff.mp h)
          exact check_nil_eq_ok_iff.mpr (JsonType.fits_trans hfits (hdestination type rfl))
  | cons t rest =>
      obtain ⟨wider, hwider, -⟩ := check_eq_ok_iff.mp h
      rw [check_cons_of_flow (some source) hwider] at h
      obtain ⟨output, hflow, hfits⟩ := flow_of_fits (.known hsource) hwider
      rw [check_cons_of_flow (some source') hflow]
      exact checkOutput_of_fits hfits hdestination h

end Chain

/-- Makes a number of a value that tells values apart. -/
def Transform.checksum : Transform where
  type := .string
  math := none
  map := none
  matching := none
  string := some ⟨some .convert, none, some .toAdler32, none, none, none⟩
  convert := none

namespace Chain

/-- The checksum of a doubled number is an integer, and so is that of a doubled integer,
which may stand where a number is asked for. -/
theorem check_of_fits_checksum :
    check [.doubling, .checksum] (some .number) (some .integer) = .ok () ∧
      check [.doubling, .checksum] (some .integer) (some .number) = .ok () := by
  have h : check [.doubling, .checksum] (some .number) (some .integer) = .ok () := rfl
  have hdestination : ∀ type ∈ some JsonType.number, JsonType.integer.fits type = true := by
    rintro _ ⟨⟩
    rfl
  exact ⟨h, check_of_fits rfl hdestination h⟩

end Chain

end ComposeLint
