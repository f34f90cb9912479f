import ComposeLint.Composition.Basic
import ComposeLint.Proofs.RecordFormat

/-!
# The format of the API is lossless

Whatever is read of a document comes back where it is written and read again, for
compositions and every type that stands in them. The records are taken from the
inside out, each by its members.

Two members hold any value and are optional, the fallback of a match and the
configuration of a function. A null that is there is written like one that is
absent, so a value that has such a null does not come back. No such value was ever
read, and it is the only one that is lost: a value is `Expressible` if it has none,
and `roundTrip_api` says that it comes back exactly if it is.
-/

namespace ComposeLint

open Member

/-! ## Finite types -/

instance : Lossless TransformType :=
  lossless_of_names rfl (fun _ => rfl) fun x => by cases x <;> rfl

instance : Lossless MathType :=
  lossless_of_names rfl (fun _ => rfl) fun x => by cases x <;> rfl

instance : Lossless StringType :=
  lossless_of_names rfl (fun _ => rfl) fun x => by cases x <;> rfl

instance : Lossless StringConversion :=
  lossless_of_names rfl (fun _ => rfl) fun x => by cases x <;> rfl

instance : Lossless PatternType :=
  lossless_of_names rfl (fun _ => rfl) fun x => by cases x <;> rfl

instance : Lossless Fallback :=
  lossless_of_names rfl (fun _ => rfl) fun x => by cases x <;> rfl

instance : Lossless ConvertTarget :=
  lossless_of_names rfl (fun _ => rfl) fun x => by cases x <;> rfl

instance : Lossless ConvertFormat :=
  lossless_of_names rfl (fun _ => rfl) fun x => by cases x <;> rfl

instance : Lossless PatchType :=
  lossless_of_names rfl (fun _ => rfl) fun x => by cases x <;> rfl

instance : Lossless SourcePolicy :=
  lossless_of_names rfl (fun _ => rfl) fun x => by cases x <;> rfl

instance : Lossless ConnectionDetailType :=
  lossless_of_names rfl (fun _ => rfl) fun x => by cases x <;> rfl

instance : Lossless ReadinessType :=
  lossless_of_names rfl (fun _ => rfl) fun x => by cases x <;> rfl

/-! ## Records that are lossless -/

instance : Lossless MathTransform :=
  lossless_of_members rfl (fun _ => rfl) fun x => by simp

instance : Lossless RegexpExtract :=
  lossless_of_members rfl (fun _ => rfl) fun x => by simp

instance : Lossless JoinItems :=
  lossless_of_members rfl (fun _ => rfl) fun x => by simp

instance : Lossless StringTransform :=
  lossless_of_members rfl (fun _ => rfl) fun x => by simp

instance : Lossless MatchPattern :=
  lossless_of_members rfl (fun _ => rfl) fun x => by simp

instance : Lossless ConvertTransform :=
  lossless_of_members rfl (fun _ => rfl) fun x => by simp

instance : Lossless CombineVariable :=
  lossless_of_members rfl (fun _ => rfl) fun x => by simp

instance : Lossless StringCombine :=
  lossless_of_members rfl (fun _ => rfl) fun x => by simp

instance : Lossless Combine :=
  lossless_of_members rfl (fun _ => rfl) fun x => by simp

instance : Lossless PatchPolicy :=
  lossless_of_members rfl (fun _ => rfl) fun x => by simp

instance : Lossless TypeReference :=
  lossless_of_members rfl (fun _ => rfl) fun x => by simp

instance : Lossless ConnectionDetail :=
  lossless_of_members rfl (fun _ => rfl) fun x => by simp

instance : Lossless ConditionMatch :=
  lossless_of_members rfl (fun _ => rfl) fun x => by simp

instance : Lossless ReadinessCheck :=
  lossless_of_members rfl (fun _ => rfl) fun x => by simp

instance : Lossless Metadata :=
  lossless_of_members rfl (fun _ => rfl) fun x => by simp

instance : Lossless ContainerSettings :=
  lossless_of_members rfl (fun _ => rfl) fun x => by simp

/-! ## Records that may hold a null -/

namespace MatchTransform

/-- A fallback value that is there is not null. -/
def Expressible (t : MatchTransform) : Prop := t.fallbackValue ≠ some .null

theorem decode?_encode {t : MatchTransform} (h : t.Expressible) :
    decode? (encode t) = some t :=
  decode?_encode_of_members rfl rfl (by simp [readOptional_map_encode_json h])

theorem expressible_of_decode? {v : Json} {t : MatchTransform} (h : decode? v = some t) :
    t.Expressible := by
  obtain ⟨members, h⟩ := exists_members_of_decode? rfl h
  simp only [optional_eq, list_eq, Option.bind_eq_bind, Option.bind_eq_some_iff] at h
  obtain ⟨_, -, _, hfallback, _, -, ⟨⟩⟩ := h
  exact ne_null_of_readOptional hfallback

end MatchTransform

namespace Transform

def Expressible (t : Transform) : Prop := ∀ m ∈ t.matching, m.Expressible

theorem decode?_encode {t : Transform} (h : t.Expressible) :
    decode? (encode t) = some t := by
  have hmatching : readOptional (t.matching.map encode) = some t.matching :=
    readOptional_map_encode fun m hm => ⟨MatchTransform.decode?_encode (h m hm), nofun⟩
  exact decode?_encode_of_members rfl rfl (by simp [hmatching])

theorem expressible_of_decode? {v : Json} {t : Transform} (h : decode? v = some t) :
    t.Expressible := by
  obtain ⟨members, h⟩ := exists_members_of_decode? rfl h
  simp only [required_eq, optional_eq, Option.bind_eq_bind, Option.bind_eq_some_iff] at h
  obtain ⟨_, -, _, -, _, -, _, hmatching, _, -, _, -, ⟨⟩⟩ := h
  exact forall_of_readOptional (fun _ _ => MatchTransform.expressible_of_decode?) hmatching

end Transform

namespace Patch

def Expressible (p : Patch) : Prop := ∀ t ∈ p.transforms, t.Expressible

theorem decode?_encode {p : Patch} (h : p.Expressible) : decode? (encode p) = some p := by
  have htransforms : readList (writtenList p.transforms) = some p.transforms :=
    readList_writtenList fun t ht => Transform.decode?_encode (h t ht)
  exact decode?_encode_of_members rfl rfl (by simp [htransforms])

theorem expressible_of_decode? {v : Json} {p : Patch} (h : decode? v = some p) :
    p.Expressible := by
  obtain ⟨members, h⟩ := exists_members_of_decode? rfl h
  simp only [optional_eq, list_eq, Option.bind_eq_bind, Option.bind_eq_some_iff] at h
  obtain ⟨_, -, _, -, _, -, _, -, _, -, _, htransforms, _, -, ⟨⟩⟩ := h
  exact forall_of_readList (fun _ _ => Transform.expressible_of_decode?) htransforms

end Patch

namespace PatchSet

def Expressible (s : PatchSet) : Prop := ∀ p ∈ s.patches, p.Expressible

theorem decode?_encode {s : PatchSet} (h : s.Expressible) :
    decode? (encode s) = some s := by
  have hpatches : decode? (encode s.patches) = some s.patches :=
    decode?_encode_list fun p hp => Patch.decode?_encode (h p hp)
  exact decode?_encode_of_members rfl rfl (by simp [hpatches])

theorem expressible_of_decode? {v : Json} {s : PatchSet} (h : decode? v = some s) :
    s.Expressible := by
  obtain ⟨members, h⟩ := exists_members_of_decode? rfl h
  simp only [required_eq, Option.bind_eq_bind, Option.bind_eq_some_iff] at h
  obtain ⟨_, -, _, ⟨_, -, hpatches⟩, ⟨⟩⟩ := h
  exact forall_of_decode?_list (fun _ _ => Patch.expressible_of_decode?) hpatches

end PatchSet

namespace Template

def Expressible (t : Template) : Prop := ∀ p ∈ t.patches, p.Expressible

theorem decode?_encode {t : Template} (h : t.Expressible) :
    decode? (encode t) = some t := by
  have hpatches : readList (writtenList t.patches) = some t.patches :=
    readList_writtenList fun p hp => Patch.decode?_encode (h p hp)
  exact decode?_encode_of_members rfl rfl (by simp [hpatches])

theorem expressible_of_decode? {v : Json} {t : Template} (h : decode? v = some t) :
    t.Expressible := by
  obtain ⟨members, h⟩ := exists_members_of_decode? rfl h
  simp only [required_eq, optional_eq, list_eq, Option.bind_eq_bind,
    Option.bind_eq_some_iff] at h
  obtain ⟨_, -, _, -, _, hpatches, _, -, _, -, ⟨⟩⟩ := h
  exact forall_of_readList (fun _ _ => Patch.expressible_of_decode?) hpatches

end Template

namespace Function

/-- A configuration that is there is not null. -/
def Expressible (f : Function) : Prop := f.config ≠ some .null

theorem decode?_encode {f : Function} (h : f.Expressible) :
    decode? (encode f) = some f :=
  decode?_encode_of_members rfl rfl (by simp [readOptional_map_encode_json h])

theorem expressible_of_decode? {v : Json} {f : Function} (h : decode? v = some f) :
    f.Expressible := by
  obtain ⟨members, h⟩ := exists_members_of_decode? rfl h
  simp only [required_eq, optional_eq, Option.bind_eq_bind, Option.bind_eq_some_iff] at h
  obtain ⟨_, -, _, -, _, -, _, hconfig, ⟨⟩⟩ := h
  exact ne_null_of_readOptional hconfig

end Function

namespace CompositionSpec

structure Expressible (s : CompositionSpec) : Prop where
  patchSets : ∀ set ∈ s.patchSets, set.Expressible
  resources : ∀ t ∈ s.resources, t.Expressible
  functions : ∀ f ∈ s.functions, f.Expressible

theorem decode?_encode {s : CompositionSpec} (h : s.Expressible) :
    decode? (encode s) = some s := by
  have hsets : readList (writtenList s.patchSets) = some s.patchSets :=
    readList_writtenList fun set hset => PatchSet.decode?_encode (h.patchSets set hset)
  have hresources : readList (writtenList s.resources) = some s.resources :=
    readList_writtenList fun t ht => Template.decode?_encode (h.resources t ht)
  have hfunctions : readList (writtenList s.functions) = some s.functions :=
    readList_writtenList fun f hf => Function.decode?_encode (h.functions f hf)
  exact decode?_encode_of_members rfl rfl (by simp [hsets, hresources, hfunctions])

theorem expressible_of_decode? {v : Json} {s : CompositionSpec}
    (h : decode? v = some s) : s.Expressible := by
  obtain ⟨members, h⟩ := exists_members_of_decode? rfl h
  simp only [required_eq, optional_eq, list_eq, Option.bind_eq_bind,
    Option.bind_eq_some_iff] at h
  obtain ⟨_, -, _, hsets, _, hresources, _, hfunctions, _, -, ⟨⟩⟩ := h
  exact
    { patchSets := forall_of_readList (fun _ _ => PatchSet.expressible_of_decode?) hsets
      resources := forall_of_readList (fun _ _ => Template.expressible_of_decode?) hresources
      functions := forall_of_readList (fun _ _ => Function.expressible_of_decode?) hfunctions }

end CompositionSpec

namespace Composition

def Expressible (c : Composition) : Prop := c.spec.Expressible

theorem decode?_encode {c : Composition} (h : c.Expressible) :
    decode? (encode c) = some c := by
  have hspec : decode? (encode c.spec) = some c.spec := CompositionSpec.decode?_encode h
  exact decode?_encode_of_members rfl rfl (by simp [hspec])

theorem expressible_of_decode? {v : Json} {c : Composition} (h : decode? v = some c) :
    c.Expressible := by
  obtain ⟨members, h⟩ := exists_members_of_decode? rfl h
  simp only [required_eq, Option.bind_eq_bind, Option.bind_eq_some_iff] at h
  obtain ⟨_, -, _, ⟨_, -, hspec⟩, ⟨⟩⟩ := h
  exact CompositionSpec.expressible_of_decode? hspec

end Composition

/-! ## The law -/

/-- What is read, and what is lost, where values are written and read again. -/
structure RoundTrip (α : Type) [Decode α] [Encode α] (Expressible : α → Prop) : Prop where
  /-- The expressible values are those that come back. -/
  decode?_encode_iff : ∀ x : α, decode? (encode x) = some x ↔ Expressible x
  /-- Whatever was read of a document comes back. -/
  reread : ∀ (v : Json) (x : α), decode? v = some x → decode? (encode x) = some x
  /-- A document that was written is written the same again. -/
  rewritten : ∀ v w : Json, (decode? v : Option α).map encode = some w →
    (decode? w : Option α).map encode = some w

theorem RoundTrip.of {α : Type} [Decode α] [Encode α] {Expressible : α → Prop}
    (hwrite : ∀ x : α, Expressible x → decode? (encode x) = some x)
    (hread : ∀ (v : Json) (x : α), decode? v = some x → Expressible x) :
    RoundTrip α Expressible where
  decode?_encode_iff x := ⟨hread (encode x) x, hwrite x⟩
  reread v x h := hwrite x (hread v x h)
  rewritten v w h := by
    obtain ⟨x, hx, rfl⟩ := Option.map_eq_some_iff.mp h
    rw [hwrite x (hread v x hx), Option.map_some]

theorem RoundTrip.of_lossless {α : Type} [Decode α] [Encode α] [Lossless α] :
    RoundTrip α fun _ => True :=
  .of (fun x _ => Lossless.decode?_encode x) fun _ _ _ => trivial

/-- Compositions and the types that stand in them come back from what is written of
them. -/
theorem roundTrip_api :
    RoundTrip Composition Composition.Expressible ∧
      RoundTrip Template Template.Expressible ∧
      RoundTrip PatchSet PatchSet.Expressible ∧
      RoundTrip Patch Patch.Expressible ∧
      RoundTrip Transform Transform.Expressible ∧
      RoundTrip ReadinessCheck (fun _ => True) ∧
      RoundTrip TypeReference (fun _ => True) :=
  ⟨.of (fun _ => Composition.decode?_encode) fun _ _ => Composition.expressible_of_decode?,
    .of (fun _ => Template.decode?_encode) fun _ _ => Template.expressible_of_decode?,
    .of (fun _ => PatchSet.decode?_encode) fun _ _ => PatchSet.expressible_of_decode?,
    .of (fun _ => Patch.decode?_encode) fun _ _ => Patch.expressible_of_decode?,
    .of (fun _ => Transform.decode?_encode) fun _ _ => Transform.expressible_of_decode?,
    .of_lossless, .of_lossless⟩

end ComposeLint
