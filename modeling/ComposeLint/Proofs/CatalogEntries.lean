import ComposeLint.Catalog.Basic
import ComposeLint.Proofs.Outcomes

/-!
# What a catalog holds

A catalog is built if every definition converts, and then answers for a key with the
last entry that any of the definitions makes for it. All entries of a definition have
its group and its kind.
-/

namespace ComposeLint

namespace TypeDefinition

variable {d : TypeDefinition}

/-- The entries that a definition makes, none if one of its schemas does not convert. -/
def converted (d : TypeDefinition) : List (TypeKey × Schema) := d.entries.toOption.getD []

theorem entries_eq_converted {es : List (TypeKey × Schema)} (h : d.entries = .ok es) :
    es = d.converted := by
  rw [converted, h]
  rfl

theorem key_of_mem_entries {es : List (TypeKey × Schema)} (h : d.entries = .ok es)
    {entry : TypeKey × Schema} (hmem : entry ∈ es) :
    entry.1.group = d.group ∧ entry.1.kind = d.kind := by
  rw [entries, mapM_eq_ok_iff] at h
  have hok : (.ok entry : Except CatalogError _) ∈ es.map .ok := List.mem_map_of_mem hmem
  rw [← h] at hok
  obtain ⟨⟨version, declaration⟩, -, hentry⟩ := List.mem_map.mp hok
  obtain ⟨schema, -, ⟨⟩⟩ := bind_eq_ok_iff.mp hentry
  exact ⟨rfl, rfl⟩

theorem key_of_mem_converted {entry : TypeKey × Schema} (h : entry ∈ d.converted) :
    entry.1.group = d.group ∧ entry.1.kind = d.kind := by
  cases hentries : d.entries with
  | error e =>
      rw [converted, hentries] at h
      cases h
  | ok es =>
      rw [← entries_eq_converted hentries] at h
      exact key_of_mem_entries hentries h

end TypeDefinition

namespace Catalog

variable {definitions : List TypeDefinition} {catalog : Catalog}

/-- A catalog is built if all definitions convert, from the entries of all of them. -/
theorem ofDefinitions_eq_ok_iff :
    ofDefinitions definitions = .ok catalog ↔
      (∀ d ∈ definitions, d.entries = .ok d.converted) ∧
        catalog = Keyed.ofList (definitions.flatMap (·.converted)) := by
  rw [ofDefinitions, bind_eq_ok_iff]
  simp only [mapM_eq_ok_iff]
  have hmap : (∀ d ∈ definitions, d.entries = .ok d.converted) ↔
      definitions.map (·.entries) = (definitions.map (·.converted)).map .ok := by
    rw [List.map_map]
    exact List.map_inj_left.symm
  rw [hmap]
  constructor
  · rintro ⟨es, hes, ⟨⟩⟩
    -- Each definition makes one list of entries only, and so the lists are known.
    have hconverted : definitions.map (·.converted) = es :=
      calc definitions.map (·.converted)
        _ = (definitions.map (·.entries)).map (·.toOption.getD []) := by rw [List.map_map]; rfl
        _ = (es.map Except.ok).map (·.toOption.getD []) := by rw [hes]
        _ = es := by rw [List.map_map]; exact List.map_id es
    rw [List.flatMap_def, hconverted]
    exact ⟨hes, rfl⟩
  · rintro ⟨hes, rfl⟩
    exact ⟨_, hes, rfl⟩

theorem lookup_ofList (entries : List (TypeKey × Schema)) (key : TypeKey) :
    lookup (Keyed.ofList entries) key = Keyed.get? key entries.reverse := by
  rw [lookup, Keyed.ofList, Keyed.get?_extend, Keyed.get?_nil, Option.or_none]

end Catalog

end ComposeLint
