import ComposeLint.Proofs.ChainFlow

/-!
# The type that values have in common

A map or a match gives one of several values, and the type of what it gives is the
widest among theirs, if there is one: the type of one of them that all the others
fit (`Widest`). That is a property of the values as a set, so neither their order
nor how often each is there matters.

The running definition goes through the values once and gives up at the first two
of which neither fits the other. Whether it does depends on their order only if two
such types could both fit a third one. They cannot, as the types that fit a type are
all comparable (`fits_or_fits_of_fits`), and this is what the induction rests on.
-/

namespace ComposeLint

theorem JsonType.fits_or_fits_of_fits {a b c : JsonType} (ha : a.fits c = true)
    (hb : b.fits c = true) : a.fits b = true ∨ b.fits a = true := by
  rcases fits_iff.mp ha with rfl | ⟨rfl, rfl⟩
  · exact .inr hb
  · rcases fits_iff.mp hb with rfl | ⟨rfl, -⟩
    · exact .inl ha
    · exact .inl (fits_refl _)

/-- A type of the list that all of its types fit. -/
structure Widest (types : List JsonType) (type : JsonType) : Prop where
  mem : type ∈ types
  fits : ∀ other ∈ types, other.fits type = true

namespace Widest

variable {types types' : List JsonType} {a b c type : JsonType}

theorem singleton_iff : Widest [a] type ↔ type = a := by
  constructor
  · rintro ⟨hmem, -⟩
    exact List.mem_singleton.mp hmem
  · rintro rfl
    exact ⟨List.mem_singleton_self _, by simp [JsonType.fits_refl]⟩

theorem congr (h : ∀ type, type ∈ types ↔ type ∈ types') :
    Widest types type ↔ Widest types' type := by
  constructor
  · rintro ⟨hmem, hfits⟩
    exact ⟨(h type).mp hmem, fun other hother => hfits other ((h other).mpr hother)⟩
  · rintro ⟨hmem, hfits⟩
    exact ⟨(h type).mpr hmem, fun other hother => hfits other ((h other).mp hother)⟩

/-- Of two types the wider one may stand for both. -/
theorem cons_cons_iff (hc : c = a ∨ c = b) (ha : a.fits c = true) (hb : b.fits c = true) :
    Widest (a :: b :: types) type ↔ Widest (c :: types) type := by
  constructor
  · rintro ⟨hmem, hfits⟩
    simp only [List.forall_mem_cons] at hfits
    obtain ⟨hfa, hfb, hrest⟩ := hfits
    have hfc : c.fits type = true := by rcases hc with rfl | rfl <;> assumption
    refine ⟨?_, List.forall_mem_cons.mpr ⟨hfc, hrest⟩⟩
    -- If the type is one of the two, it is the wider one.
    rcases List.mem_cons.mp hmem with rfl | hmem
    · rw [JsonType.fits_antisymm ha hfc]
      exact List.mem_cons_self
    · rcases List.mem_cons.mp hmem with rfl | hmem
      · rw [JsonType.fits_antisymm hb hfc]
        exact List.mem_cons_self
      · exact List.mem_cons_of_mem _ hmem
  · rintro ⟨hmem, hfits⟩
    obtain ⟨hfc, hrest⟩ := List.forall_mem_cons.mp hfits
    refine ⟨?_, ?_⟩
    · rcases List.mem_cons.mp hmem with rfl | hmem
      · rcases hc with rfl | rfl <;> simp
      · exact List.mem_cons_of_mem _ (List.mem_cons_of_mem _ hmem)
    · simp only [List.forall_mem_cons]
      exact ⟨JsonType.fits_trans ha hfc, JsonType.fits_trans hb hfc, hrest⟩

end Widest

namespace FlowType

variable {types types' : List JsonType} {a b c current type : JsonType}

theorem of_join_eq_some (h : common.join a b = some c) :
    (c = a ∨ c = b) ∧ a.fits c = true ∧ b.fits c = true := by
  rw [common.join] at h
  split at h
  · next hba =>
      cases h
      exact ⟨.inl rfl, JsonType.fits_refl _, hba⟩
  · split at h
    · next hab =>
        cases h
        exact ⟨.inr rfl, hab, JsonType.fits_refl _⟩
    · cases h

theorem of_join_eq_none (h : common.join a b = none) :
    ¬ (a.fits b = true ∨ b.fits a = true) := by
  rw [common.join] at h
  split at h
  · cases h
  · next hba =>
      split at h
      · cases h
      · next hab => exact not_or.mpr ⟨hab, hba⟩

/-- What the walk through the types comes to is what the types come to as a set. -/
theorem foldlM_join_eq_some_iff :
    types.foldlM common.join current = some type ↔ Widest (current :: types) type := by
  induction types generalizing current with
  | nil =>
      rw [Widest.singleton_iff, eq_comm]
      exact Option.some_inj
  | cons next rest ih =>
      rw [List.foldlM_cons]
      cases hjoin : common.join current next with
      | none =>
          refine iff_of_false nofun fun hwidest => of_join_eq_none hjoin ?_
          have hfits := hwidest.fits
          simp only [List.forall_mem_cons] at hfits
          exact JsonType.fits_or_fits_of_fits hfits.1 hfits.2.1
      | some wider =>
          obtain ⟨hwider, hcurrent, hnext⟩ := of_join_eq_some hjoin
          rw [Widest.cons_cons_iff hwider hcurrent hnext]
          exact ih

theorem common_eq_known_iff : common types = .known type ↔ Widest types type := by
  cases types with
  | nil => exact iff_of_false nofun fun h => nomatch h.mem
  | cons first rest =>
      rw [← foldlM_join_eq_some_iff, common]
      cases rest.foldlM common.join first <;> simp

theorem common_eq_any_iff : common types = .any ↔ ¬ ∃ type, Widest types type := by
  simp only [← common_eq_known_iff]
  cases types with
  | nil => exact iff_of_true rfl nofun
  | cons first rest =>
      rw [common]
      cases rest.foldlM common.join first <;> simp

/-- Neither the order of types matters nor how often each is there. -/
theorem common_congr (h : ∀ type, type ∈ types ↔ type ∈ types') :
    common types = common types' := by
  by_cases hwidest : ∃ type, Widest types type
  · obtain ⟨type, hwidest⟩ := hwidest
    rw [common_eq_known_iff.mpr hwidest, common_eq_known_iff.mpr ((Widest.congr h).mp hwidest)]
  · have hwidest' := hwidest
    simp only [Widest.congr h] at hwidest'
    rw [common_eq_any_iff.mpr hwidest, common_eq_any_iff.mpr hwidest']

end FlowType

/-! ## Maps and matches -/

namespace MatchTransform

variable {t : MatchTransform} {input : FlowType} {source type : JsonType}

theorem mem_resultTypes_iff :
    type ∈ t.resultTypes ↔
      (∃ pattern ∈ t.patterns, pattern.result.type = type) ∨
        ∃ value, t.fallbackValue = some value ∧ value.type = type := by
  simp only [resultTypes, List.mem_append, List.mem_map, Option.mem_toList,
    Option.map_eq_some_iff]

/-- Nothing can be told of a match that may give its input, if nothing is known of that. -/
theorem output_eq_known_iff :
    t.output input = .known type ↔
      (t.fallbackTo ≠ some .input ∧ Widest t.resultTypes type) ∨
        ∃ source, t.fallbackTo = some .input ∧ input = .known source ∧
          Widest (t.resultTypes ++ [source]) type := by
  rw [output.eq_def]
  split
  · next h =>
      cases input with
      | known source => simp [h, FlowType.common_eq_known_iff]
      | unknown | any => simp [h]
  · next h => simp [h, FlowType.common_eq_known_iff]

theorem check_eq_ok_iff :
    t.check = .ok () ↔
      (t.patterns ≠ [] ∨ t.fallbackValue ≠ none ∨ t.fallbackTo = some .input) ∧
        ∀ pattern ∈ t.patterns, pattern.check = .ok () := by
  have hgives : (t.patterns.isEmpty && t.fallbackValue.isNone &&
      t.fallbackTo ≠ some .input) = false ↔
      t.patterns ≠ [] ∨ t.fallbackValue ≠ none ∨ t.fallbackTo = some .input := by
    simp [or_iff_not_imp_left]
  rw [check, ← hgives, ← forM_eq_ok_iff]
  split
  · next h => exact iff_of_false nofun fun hcheck => absurd (h.symm.trans hcheck.1) (by decide)
  · next h => exact ⟨fun hcheck => ⟨Bool.not_eq_true _ ▸ h, hcheck⟩, And.right⟩

end MatchTransform

/-- No value that a map or a match may give has a type wider than this. -/
structure Transform.Bounded (t : Transform) (input : FlowType) (type : JsonType) : Prop where
  mapped : t.type = .map → ∀ pairs, t.map = some pairs →
    ∀ pair ∈ pairs, pair.2.type.fits type = true
  matched : t.type = .matching → ∀ config, t.matching = some config →
    ∀ pattern ∈ config.patterns, pattern.result.type.fits type = true
  fallbackValue : t.type = .matching → ∀ config, t.matching = some config →
    ∀ value, config.fallbackValue = some value → value.type.fits type = true
  fallbackInput : t.type = .matching → ∀ config, t.matching = some config →
    config.fallbackTo = some .input →
      ∃ source, input = .known source ∧ source.fits type = true

/-- The same transform with its pairs or its patterns in another order. -/
inductive Transform.Reordered (t : Transform) : Transform → Prop where
  | pairs {pairs pairs' : Keyed String Json} (hpairs : t.map = some pairs)
      (hperm : pairs.Perm pairs') : Reordered t { t with map := some pairs' }
  | patterns {config : MatchTransform} {patterns' : List MatchPattern}
      (hconfig : t.matching = some config) (hperm : config.patterns.Perm patterns') :
      Reordered t { t with matching := some { config with patterns := patterns' } }

namespace Operation

variable {index : Nat} {input output : FlowType}

theorem output_of_flow {op : Operation} (h : op.flow index input = .ok output) :
    op.output index input = .ok output := by
  cases input with
  | known type => exact (flow_known_eq_ok_iff.mp h).2
  | unknown | any => exact h

theorem flow_congr {op op' : Operation} (haccepted : op.accepted = op'.accepted)
    (houtput : op.output index input = op'.output index input) :
    op.flow index input = op'.flow index input := by
  rw [flow.eq_def, flow.eq_def, haccepted, houtput]

theorem flow_map_perm {pairs pairs' : Keyed String Json} (h : pairs.Perm pairs') :
    (map pairs').flow index input = (map pairs).flow index input := by
  refine flow_congr rfl (congrArg Except.ok (FlowType.common_congr fun type => ?_))
  exact ((h.map Prod.snd).map Json.type).symm.mem_iff

theorem flow_matching_perm {config : MatchTransform} {patterns' : List MatchPattern}
    (h : config.patterns.Perm patterns') :
    (matching { config with patterns := patterns' }).flow index input =
      (matching config).flow index input := by
  have hmem : ∀ type,
      type ∈ MatchTransform.resultTypes { config with patterns := patterns' } ↔
        type ∈ config.resultTypes := by
    intro type
    exact ((h.map (·.result.type)).symm.append_right _).mem_iff
  refine flow_congr rfl (congrArg Except.ok ?_)
  rw [MatchTransform.output.eq_def, MatchTransform.output.eq_def]
  dsimp only
  split
  · cases input with
    | known source =>
        refine FlowType.common_congr fun type => ?_
        rw [List.mem_append, List.mem_append, hmem]
    | unknown | any => rfl
  · exact FlowType.common_congr hmem

end Operation

namespace Transform

variable {t t' : Transform} {op : Operation} {index : Nat} {input : FlowType}
  {type : JsonType}

/-- Of a map or a match, if it tells the type of what it gives. -/
theorem bounded_of_flow (hop : t.operation = .ok op)
    (hflow : op.flow index input = .ok (.known type))
    (htype : t.type = .map ∨ t.type = .matching) : t.Bounded input type := by
  have houtput := Operation.output_of_flow hflow
  cases operation_eq_ok_iff.mp hop with
  | convert ht | math ht | string ht => simp [ht] at htype
  | map ht hpairs =>
      have hwidest := FlowType.common_eq_known_iff.mp (Except.ok.inj houtput)
      refine ⟨?_, by simp [ht], by simp [ht], by simp [ht]⟩
      rintro - _ hpairs' pair hpair
      cases hpairs.symm.trans hpairs'
      exact hwidest.fits _ (List.mem_map_of_mem (List.mem_map_of_mem hpair))
  | @matching config ht hconfig =>
      have hgiven : ∀ other ∈ config.resultTypes, other.fits type = true := by
        rcases MatchTransform.output_eq_known_iff.mp (Except.ok.inj houtput) with
          ⟨-, hwidest⟩ | ⟨source, -, -, hwidest⟩
        · exact hwidest.fits
        · exact fun other hother => hwidest.fits other (List.mem_append_left _ hother)
      refine ⟨by simp [ht], ?_, ?_, ?_⟩
      · rintro - _ hconfig' pattern hpattern
        cases hconfig.symm.trans hconfig'
        exact hgiven _ (MatchTransform.mem_resultTypes_iff.mpr (.inl ⟨pattern, hpattern, rfl⟩))
      · rintro - _ hconfig' value hvalue
        cases hconfig.symm.trans hconfig'
        exact hgiven _ (MatchTransform.mem_resultTypes_iff.mpr (.inr ⟨value, hvalue, rfl⟩))
      · rintro - _ hconfig' hto
        cases hconfig.symm.trans hconfig'
        rcases MatchTransform.output_eq_known_iff.mp (Except.ok.inj houtput) with
          ⟨hne, -⟩ | ⟨source, -, rfl, hwidest⟩
        · exact absurd hto hne
        · exact ⟨source, rfl, hwidest.fits source (by simp)⟩

/-- A transform that is complete is so in any order, and gives the same. -/
theorem flow_of_reordered (hop : t.operation = .ok op) (h : t.Reordered t') :
    ∃ op', t'.operation = .ok op' ∧
      ∀ index input, op'.flow index input = op.flow index input := by
  simp only [operation_eq_ok_iff] at hop ⊢
  cases h with
  | @pairs pairs pairs' hpairs hperm =>
      cases hop with
      | convert ht hconfig => exact ⟨_, .convert ht hconfig, fun _ _ => rfl⟩
      | math ht hconfig hm => exact ⟨_, .math ht hconfig hm, fun _ _ => rfl⟩
      | string ht hconfig hs => exact ⟨_, .string ht hconfig hs, fun _ _ => rfl⟩
      | matching ht hconfig hcheck => exact ⟨_, .matching ht hconfig hcheck, fun _ _ => rfl⟩
      | map ht hpairs' hne =>
          cases hpairs.symm.trans hpairs'
          have hne' : pairs' ≠ [] := by
            rintro rfl
            exact hne hperm.eq_nil
          exact ⟨_, .map ht rfl hne', fun _ _ => Operation.flow_map_perm hperm⟩
  | @patterns config patterns' hconfig hperm =>
      cases hop with
      | convert ht hconvert => exact ⟨_, .convert ht hconvert, fun _ _ => rfl⟩
      | math ht hmath hm => exact ⟨_, .math ht hmath hm, fun _ _ => rfl⟩
      | string ht hstring hs => exact ⟨_, .string ht hstring hs, fun _ _ => rfl⟩
      | map ht hpairs hne => exact ⟨_, .map ht hpairs hne, fun _ _ => rfl⟩
      | matching ht hconfig' hcheck =>
          cases hconfig.symm.trans hconfig'
          refine ⟨_, .matching ht rfl ?_, fun _ _ => Operation.flow_matching_perm hperm⟩
          rw [MatchTransform.check_eq_ok_iff] at hcheck ⊢
          obtain ⟨hgives, hpatterns⟩ := hcheck
          have hne (hne : config.patterns ≠ []) : patterns' ≠ [] := by
            rintro rfl
            exact hne hperm.eq_nil
          refine ⟨hgives.imp_left hne, ?_⟩
          exact fun pattern hpattern => hpatterns pattern (hperm.mem_iff.mpr hpattern)

/-- What a map or a match gives has the widest of the types of the values that it may give,
if there is one, and of what type it is cannot be told otherwise. So the order of the
values does not matter. -/
theorem output_widest :
    (∀ types type, FlowType.common types = .known type ↔
      type ∈ types ∧ ∀ other ∈ types, other.fits type = true) ∧
    (∀ types, FlowType.common types = .any ↔
      ¬ ∃ type, type ∈ types ∧ ∀ other ∈ types, other.fits type = true) ∧
    (∀ types types' : List JsonType, (∀ type, type ∈ types ↔ type ∈ types') →
      FlowType.common types = FlowType.common types') ∧
    (∀ (t : Transform) op index input type, t.operation = .ok op →
      t.type = .map ∨ t.type = .matching → op.flow index input = .ok (.known type) →
      t.Bounded input type) ∧
    ∀ (t t' : Transform) op, t.operation = .ok op → t.Reordered t' →
      ∃ op', t'.operation = .ok op' ∧
        ∀ index input, op'.flow index input = op.flow index input := by
  have hwidest : ∀ types type, Widest types type ↔
      type ∈ types ∧ ∀ other ∈ types, other.fits type = true :=
    fun _ _ => ⟨fun h => ⟨h.mem, h.fits⟩, fun h => ⟨h.1, h.2⟩⟩
  simp only [← hwidest]
  refine ⟨fun _ _ => FlowType.common_eq_known_iff, fun _ => FlowType.common_eq_any_iff,
    fun _ _ => FlowType.common_congr, ?_, fun _ _ _ => flow_of_reordered⟩
  intro t op index input type hop htype hflow
  exact bounded_of_flow hop hflow htype

def weight (size : String) (units : Int) : MatchPattern :=
  ⟨.literal, some size, none, .int units⟩

/-- Gives an integer for the sizes that it knows and a number for all others. -/
def weighing (patterns : List MatchPattern) : Transform where
  type := .matching
  math := none
  map := none
  matching := some ⟨patterns, some (.double .one), none⟩
  string := none
  convert := none

/-- The weights are numbers, whichever of the sizes comes first. -/
theorem output_widest_weighing :
    let t := weighing [weight "small" 1, weight "large" 5]
    let t' := weighing [weight "large" 5, weight "small" 1]
    FlowType.common [.integer, .integer, .number] = FlowType.common [.number, .integer] ∧
      ∃ op, t.operation = .ok op ∧ t.type = .matching ∧
        op.flow 0 (.known .string) = .ok (.known .number) ∧
        t.Bounded (.known .string) .number ∧ t.Reordered t' ∧
        ∃ op', t'.operation = .ok op' ∧
          ∀ index input, op'.flow index input = op.flow index input := by
  intro t t'
  obtain ⟨-, -, hset, hbounded, hreordered⟩ := output_widest
  let config : MatchTransform :=
    ⟨[weight "small" 1, weight "large" 5], some (.double .one), none⟩
  let op := Operation.matching config
  have hop : t.operation = .ok op := rfl
  have hflow : op.flow 0 (.known .string) = .ok (.known .number) := rfl
  have ht' : t.Reordered t' := @Reordered.patterns t config _ rfl (.swap _ _ [])
  have hmem : ∀ type, type ∈ [JsonType.integer, .integer, .number] ↔
      type ∈ [JsonType.number, .integer] := by simp [or_comm]
  exact ⟨hset _ _ hmem, op, hop, rfl, hflow, hbounded t op 0 _ _ hop (.inr rfl) hflow, ht',
    hreordered t t' op hop ht'⟩

end Transform

end ComposeLint
