import ComposeLint.Proofs.RuleVerdict
import ComposeLint.Template.Check

/-!
# What the rules find

`RuleVerdict.lean` says when the rules find nothing. Here is all that they find, in
which order, and with which texts (`Rule.apply_standard_report`): one rule after the
other, and each rule's findings in the order of what they are about.

Every rule goes through a list and finds at most one thing in an element. Its report
is then fixed by which element gives what (`Reports`), and this is stated without
the rule: a name is repeated if some smaller position holds it. The rules look back
at what they have passed, so the third and every later place of a name is reported
like the second.
-/

namespace ComposeLint

section Reports

variable {α β : Type} {l : List α} {Found Found' : Nat → α → β → Prop}

/-- A report on the elements of a list, by position: what is found in each of them, at
most one thing, in the order of the elements. -/
def Reports (l : List α) (Found : Nat → α → β → Prop) (report : List β) : Prop :=
  ∃ entries : List (Nat × β),
    (entries.map (·.1)).Pairwise (· < ·) ∧
      (∀ i y, (i, y) ∈ entries ↔ ∃ x, l[i]? = some x ∧ Found i x y) ∧
      report = entries.map (·.2)

/-- A report that has a part for every element of a list. -/
def ReportsAll (l : List α) (Part : Nat → α → List β → Prop) (report : List β) : Prop :=
  ∃ parts : List (List β), parts.length = l.length ∧
    (∀ i x part, l[i]? = some x → parts[i]? = some part → Part i x part) ∧
    report = parts.flatten

/-- The report of something that is the case, or is not. -/
def ReportsIf (p : Prop) (found : β) (report : List β) : Prop :=
  (p → report = [found]) ∧ (¬ p → report = [])

theorem reportsIf_ite (p : Prop) [Decidable p] (found : β) :
    ReportsIf p found (if p then [found] else []) :=
  ⟨fun h => if_pos h, fun h => if_neg h⟩

theorem ReportsIf.congr {p q : Prop} {found : β} {report : List β} (h : p ↔ q)
    (hreport : ReportsIf p found report) : ReportsIf q found report :=
  propext h ▸ hreport

theorem Reports.congr {report : List β} (hreport : Reports l Found report)
    (h : ∀ i x y, Found i x y ↔ Found' i x y) : Reports l Found' report := by
  obtain ⟨entries, horder, hmem, hmap⟩ := hreport
  exact ⟨entries, horder, by simpa only [← h] using hmem, hmap⟩

/-- What is found in the images of the elements is found in the elements. -/
theorem Reports.of_map {γ : Type} {s : γ → α} {l : List γ} {report : List β}
    (h : Reports (l.map s) Found report) : Reports l (fun i x y => Found i (s x) y) report := by
  obtain ⟨entries, horder, hmem, hmap⟩ := h
  refine ⟨entries, horder, fun i y => ?_, hmap⟩
  rw [hmem]
  simp only [List.getElem?_map, Option.map_eq_some_iff]
  constructor
  · rintro ⟨_, ⟨x, hx, rfl⟩, hy⟩
    exact ⟨x, hx, hy⟩
  · rintro ⟨x, hx, hy⟩
    exact ⟨_, ⟨x, hx, rfl⟩, hy⟩

theorem reports_nil (h : ∀ i x y, ¬ Found i x y) : Reports l Found [] :=
  ⟨[], List.Pairwise.nil, by simp [h], rfl⟩

theorem reports_filterMap (g : α × Nat → Option β) :
    Reports l (fun i x y => g (x, i) = some y) (l.zipIdx.filterMap g) := by
  refine ⟨l.zipIdx.filterMap fun v => (g v).map (v.2, ·), ?_, ?_, ?_⟩
  · rw [List.pairwise_map, List.pairwise_filterMap]
    refine (pairwise_zipIdx l).imp fun {v w} hlt => ?_
    intro a ha b hb
    obtain ⟨_, -, rfl⟩ := Option.map_eq_some_iff.mp ha
    obtain ⟨_, -, rfl⟩ := Option.map_eq_some_iff.mp hb
    exact hlt
  · intro i y
    simp only [List.mem_filterMap, Prod.exists, List.mk_mem_zipIdx_iff_getElem?,
      Option.map_eq_some_iff, Prod.mk.injEq]
    constructor
    · rintro ⟨x, _, hx, _, hy, rfl, rfl⟩
      exact ⟨x, hx, hy⟩
    · rintro ⟨x, hx, hy⟩
      exact ⟨x, i, hx, y, hy, rfl, rfl⟩
  · rw [List.map_filterMap]
    refine List.filterMap_congr fun v _ => ?_
    cases g v <;> rfl

theorem reportsAll_flatMap {Part : Nat → α → List β → Prop} (g : α × Nat → List β)
    (h : ∀ i x, Part i x (g (x, i))) : ReportsAll l Part (l.zipIdx.flatMap g) := by
  refine ⟨l.zipIdx.map g, by simp, ?_, List.flatMap_def ..⟩
  intro i x part hx hpart
  simp only [List.getElem?_map, List.getElem?_zipIdx, hx, Option.map_some, Nat.zero_add,
    Option.some.injEq] at hpart
  exact hpart ▸ h i x

end Reports

/-! ## What each rule is about -/

/-- The name stands at a smaller position. -/
def StandsBefore {α : Type} (names : List α) (i : Nat) (name : α) : Prop :=
  ∃ j < i, names[j]? = some name

theorem standsBefore_iff {α : Type} {names : List α} {i : Nat} {name : α} :
    StandsBefore names i name ↔ name ∈ names.take i := by
  simp [StandsBefore, List.mem_iff_getElem?, List.getElem?_take]

namespace Composition

/-- Some templates have names and some have not. -/
def MixesNames (c : Composition) : Prop :=
  (∃ t ∈ c.spec.resources, t.name ≠ none) ∧ ∃ t ∈ c.spec.resources, t.name = none

def mixedNames (c : Composition) : Finding :=
  .invalid [.field "spec", .field "resources"] (c.spec.resources.map (·.name))
    ("cannot mix named and anonymous resource templates - " ++
      "ensure all resource templates are named")

/-- The template has the name of one before it. -/
def RepeatsName (c : Composition) (i : Nat) (t : Template) (f : Finding) : Prop :=
  ∃ name, t.name = some name ∧
    StandsBefore (c.spec.resources.map (·.name)) i (some name) ∧
    f = .duplicate ((Template.path i).child "name") name
      "resource template names must be unique within their Composition"

/-- The template has no name for functions to know it by. -/
def LacksName (c : Composition) (i : Nat) (t : Template) (f : Finding) : Prop :=
  c.spec.functions ≠ [] ∧ t.name = none ∧
    f = .invalid ((Template.path i).child "name") Json.null
      ("cannot use functions with anonymous resource templates - " ++
        "ensure all resource templates are named")

end Composition

/-- The function is of a type that does not exist, or lacks what its type needs. -/
def Function.Incomplete (i : Nat) (g : Function) (f : Finding) : Prop :=
  let path : Path := [.field "spec", .field "functions", .index i]
  (g.type ≠ "Container" ∧
    f = .invalid (path.child "type") g.type ("unknown function type " ++ Text.quoted g.type)) ∨
  (g.type = "Container" ∧ g.container = none ∧
    f = .required (path.child "container")
      "functions of type: Container must specify container configuration")

namespace PatchSet

def path (i : Nat) : Path := [.field "spec", .field "patchSets", .index i]

/-- The patch of a set stands for another set, or lacks what its type needs. -/
def Unsound (i j : Nat) (p : Patch) (f : Finding) : Prop :=
  let path := Path.item ((path i).child "patches") j
  (p.kind = .patchSet ∧
    f = .invalid (path.child "type") PatchType.patchSet "cannot nest patch sets") ∨
  (p.kind ≠ .patchSet ∧ ∃ e, p.action = .error e ∧ f = e.finding path)

/-- What is found in a set: its name, if a set before it has that, and then its patches. -/
def Report (c : Composition) (i : Nat) (set : PatchSet) (report : List Finding) : Prop :=
  ∃ name patches, report = name ++ patches ∧
    ReportsIf (StandsBefore (c.spec.patchSets.map (·.name)) i set.name)
      (Finding.duplicate ((path i).child "name") set.name
        "patch set names must be unique within their Composition") name ∧
    Reports set.patches (Unsound i) patches

end PatchSet

namespace Rule

variable {c : Composition}

theorem allOrNoneNamed_report (c : Composition) :
    ReportsIf c.MixesNames c.mixedNames (allOrNoneNamed c) := by
  refine ReportsIf.congr ?_ (reportsIf_ite _ _)
  simp [templateNames, Composition.MixesNames, Option.isSome_iff_ne_none]

theorem distinctNames_report (c : Composition) :
    Reports c.spec.resources c.RepeatsName (distinctNames c) := by
  rw [distinctNames, repeated, List.map_filterMap]
  refine (reports_filterMap _).of_map.congr fun i t f => ?_
  rw [Composition.RepeatsName]
  cases t.name with
  | none => simp
  | some name =>
      have hlook : ((templateNames c).take i).contains (some name) = true ↔
          StandsBefore (c.spec.resources.map (·.name)) i (some name) := by
        rw [standsBefore_iff]
        exact List.contains_iff_mem
      simp [← hlook, eq_comm, resourcesPath, Template.path, Path.item]

theorem namedForFunctions_report (c : Composition) :
    Reports c.spec.resources c.LacksName (namedForFunctions c) := by
  rw [namedForFunctions]
  split
  · next h =>
      refine reports_nil fun i t f hf => hf.1 (List.isEmpty_iff.mp h)
  · next h =>
      have hne : c.spec.functions ≠ [] := by simpa using h
      refine (reports_filterMap _).of_map.congr fun i t f => ?_
      rw [Composition.LacksName]
      cases t.name <;> simp [hne, eq_comm, resourcesPath, Template.path, Path.item]

theorem functionFinding_eq_some_iff {i : Nat} {g : Function} {f : Finding} :
    functionFinding [.field "spec", .field "functions", .index i] g = some f ↔
      g.Incomplete i f := by
  rw [functionFinding, Function.Incomplete]
  cases htype : FunctionType.ofName? g.type with
  | none =>
      have hne : g.type ≠ "Container" := fun h => by
        obtain ⟨type, hsome⟩ := FunctionType.ofName?_eq_some_iff.mpr h
        cases htype.symm.trans hsome
      simp [hne, eq_comm]
  | some type =>
      have heq : g.type = "Container" := FunctionType.ofName?_eq_some_iff.mp ⟨type, htype⟩
      cases type
      cases hcontainer : g.container <;> simp [heq, eq_comm]

theorem completeFunctions_report (c : Composition) :
    Reports c.spec.functions (Function.Incomplete) (completeFunctions c) :=
  (reports_filterMap _).congr fun _ _ _ => functionFinding_eq_some_iff

theorem setPatchFinding_eq_some_iff {i j : Nat} {p : Patch} {f : Finding} :
    setPatchFinding (Path.item ((PatchSet.path i).child "patches") j) p = some f ↔
      PatchSet.Unsound i j p f := by
  rw [setPatchFinding, PatchSet.Unsound]
  split
  · next h => simp [h, eq_comm]
  · next h => cases haction : p.action <;> simp [h, eq_comm]

theorem soundPatchSets_report (c : Composition) :
    ReportsAll c.spec.patchSets (PatchSet.Report c) (soundPatchSets c) := by
  refine reportsAll_flatMap _ fun i set => ⟨_, _, rfl, ?_, ?_⟩
  · refine ReportsIf.congr ?_ (reportsIf_ite _ _)
    rw [standsBefore_iff]
    exact List.contains_iff_mem
  · exact (reports_filterMap _).congr fun _ _ _ => setPatchFinding_eq_some_iff

/-- All that the rules find, in the order in which they find it: one rule after the other,
and each rule's findings in the order of what they are about. -/
theorem apply_standard_report (c : Composition) :
    (∃ mixed repeated unnamed functions sets,
      apply standard c = mixed ++ repeated ++ unnamed ++ functions ++ sets ∧
      ReportsIf c.MixesNames c.mixedNames mixed ∧
      Reports c.spec.resources c.RepeatsName repeated ∧
      Reports c.spec.resources c.LacksName unnamed ∧
      Reports c.spec.functions Function.Incomplete functions ∧
      ReportsAll c.spec.patchSets (PatchSet.Report c) sets) ∧
    (apply standard c = [] ↔ c.Structured) := by
  refine ⟨⟨_, _, _, _, _, ?_, allOrNoneNamed_report c, distinctNames_report c,
    namedForFunctions_report c, completeFunctions_report c, soundPatchSets_report c⟩,
    apply_standard_eq_nil_iff⟩
  simp only [apply, standard, List.flatMap_cons, List.flatMap_nil, List.append_nil,
    List.append_assoc]

end Rule

end ComposeLint
