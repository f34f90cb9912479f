import ComposeLint.CommandLine.Run
import ComposeLint.Proofs.CatalogEntries
import Mathlib.Data.List.Forall2

/-!
# Catalogs of many files

A catalog of some definitions and then others is the catalog of all of them, in that
order, and fails as the first of the two that fails (`Catalog.ofDefinitions_append`).
So it does not matter over how many files definitions are spread: the command line
builds a catalog of each file and puts one after the other into what it has.

What a catalog answers is told by a walk over all versions of all definitions. It is
the schema of the last version that is served, has a schema and is of the type asked
for. That the last one counts holds within a definition, across definitions and
across files alike, because all that ever happens to a catalog is that entries are
put into it, one after the other.
-/

namespace ComposeLint

/-- The last element of a list with a property. -/
def LastWith {α : Type} (l : List α) (p : α → Prop) (x : α) : Prop :=
  ∃ before after, l = before ++ x :: after ∧ p x ∧ ∀ y ∈ after, ¬ p y

theorem LastWith.congr {α : Type} {l : List α} {p q : α → Prop} {x : α}
    (h : ∀ y ∈ l, p y ↔ q y) : LastWith l p x ↔ LastWith l q x := by
  refine exists₂_congr fun before after => and_congr_right ?_
  rintro rfl
  refine and_congr (h x (by simp)) (forall₂_congr fun y hy => not_congr (h y ?_))
  exact List.mem_append_right _ (List.mem_cons_of_mem _ hy)

theorem lastWith_cons_iff {α : Type} {a : α} {l : List α} {p : α → Prop} {x : α} :
    LastWith (a :: l) p x ↔ LastWith l p x ∨ (x = a ∧ p a ∧ ∀ y ∈ l, ¬ p y) := by
  constructor
  · rintro ⟨before, after, hl, hx, hafter⟩
    cases before with
    | nil =>
        cases hl
        exact .inr ⟨rfl, hx, hafter⟩
    | cons b before =>
        cases hl
        exact .inl ⟨before, after, rfl, hx, hafter⟩
  · rintro (⟨before, after, rfl, hx, hafter⟩ | ⟨rfl, hx, hafter⟩)
    · exact ⟨a :: before, after, rfl, hx, hafter⟩
    · exact ⟨[], l, rfl, hx, hafter⟩

namespace Keyed

variable {α κ β : Type} [DecidableEq κ] {l : List α} {g : α → Option (κ × β)} {key : κ}

theorem get?_reverse_filterMap_eq_none_iff :
    get? key (l.filterMap g).reverse = none ↔ ∀ x ∈ l, ¬ ∃ value, g x = some (key, value) := by
  rw [← Option.not_isSome_iff_eq_none, ← contains, contains_iff]
  simp only [keys, List.mem_map, List.mem_reverse, List.mem_filterMap]
  constructor
  · rintro h x hx ⟨value, hvalue⟩
    exact h ⟨(key, value), ⟨x, hx, hvalue⟩, rfl⟩
  · rintro h ⟨⟨_, value⟩, ⟨x, hx, hvalue⟩, rfl⟩
    exact h x hx ⟨value, hvalue⟩

/-- Read from the end, the pairs that a list makes answer with the last that has the key. -/
theorem get?_reverse_filterMap_eq_some_iff {value : β} :
    get? key (l.filterMap g).reverse = some value ↔
      ∃ x, LastWith l (fun y => ∃ value, g y = some (key, value)) x ∧
        g x = some (key, value) := by
  induction l with
  | nil =>
      refine iff_of_false nofun ?_
      rintro ⟨x, ⟨before, after, hl, -⟩, -⟩
      simp at hl
  | cons a rest ih =>
      have hlast : get? key (List.filterMap g [a]).reverse = some value ↔
          g a = some (key, value) := by
        cases hg : g a with
        | none => simp [hg]
        | some pair =>
            obtain ⟨k, v⟩ := pair
            simp [hg]
      rw [← List.singleton_append, List.filterMap_append, List.reverse_append, get?_append,
        Option.or_eq_some_iff, ih, get?_reverse_filterMap_eq_none_iff, hlast]
      simp only [List.singleton_append, lastWith_cons_iff, or_and_right, exists_or]
      refine or_congr_right ?_
      constructor
      · rintro ⟨hnone, ha⟩
        exact ⟨a, ⟨rfl, ⟨value, ha⟩, hnone⟩, ha⟩
      · rintro ⟨_, ⟨rfl, -, hnone⟩, ha⟩
        exact ⟨hnone, ha⟩

end Keyed

/-! ## Entries, version by version -/

namespace TypeDefinition

variable {d : TypeDefinition} {v : DefinedVersion} {key : TypeKey}
  {es : List (TypeKey × Schema)}

/-- The version is served, has a schema and is of that type. -/
def Serves (d : TypeDefinition) (v : DefinedVersion) (key : TypeKey) : Prop :=
  v.served = true ∧ v.schema ≠ none ∧ key = ⟨d.group, v.name, d.kind⟩

/-- The entry that a version makes. -/
def entryOf? (d : TypeDefinition) (v : DefinedVersion) : Option (TypeKey × Schema) :=
  if v.served then
    v.schema.bind fun declaration =>
      declaration.toSchema.toOption.map (⟨d.group, v.name, d.kind⟩, ·)
  else none

theorem entryOf?_eq_some_iff {schema : Schema} :
    d.entryOf? v = some (key, schema) ↔
      v.served = true ∧ key = ⟨d.group, v.name, d.kind⟩ ∧
        ∃ declaration, v.schema = some declaration ∧ declaration.toSchema = .ok schema := by
  have htoOption : ∀ {x : Except SchemaError Schema} {s : Schema},
      x.toOption = some s ↔ x = .ok s := by
    rintro (_ | _) s <;> simp [Except.toOption]
  rw [entryOf?, Option.ite_none_right_eq_some, Option.bind_eq_some_iff]
  simp only [Option.map_eq_some_iff, htoOption, Prod.mk.injEq]
  refine and_congr_right fun _ => ?_
  constructor
  · rintro ⟨declaration, hdeclaration, _, hschema, rfl, rfl⟩
    exact ⟨rfl, declaration, hdeclaration, hschema⟩
  · rintro ⟨rfl, declaration, hdeclaration, hschema⟩
    exact ⟨declaration, hdeclaration, schema, hschema, rfl, rfl⟩

theorem mem_servedSchemas_iff {version : String} {declaration : Declaration} :
    (version, declaration) ∈ d.servedSchemas ↔
      ∃ v ∈ d.versions, v.served = true ∧ v.schema = some declaration ∧ v.name = version := by
  simp only [servedSchemas, List.mem_filterMap, List.mem_filter, Option.map_eq_some_iff,
    Prod.mk.injEq, and_assoc]
  refine exists_congr fun v => and_congr_right fun _ => and_congr_right fun _ => ?_
  constructor
  · rintro ⟨_, hschema, hname, rfl⟩
    exact ⟨hschema, hname⟩
  · rintro ⟨hschema, hname⟩
    exact ⟨declaration, hschema, hname, rfl⟩

/-- In a definition that converts every version that is served converts. -/
theorem exists_toSchema_of_entries (h : d.entries = .ok es) (hv : v ∈ d.versions)
    (hserved : v.served = true) {declaration : Declaration}
    (hschema : v.schema = some declaration) : ∃ schema, declaration.toSchema = .ok schema := by
  obtain ⟨entry, -, hentry⟩ :=
    exists_mem_of_mapM h (mem_servedSchemas_iff.mpr ⟨v, hv, hserved, hschema, rfl⟩)
  obtain ⟨schema, hconvert, -⟩ := bind_eq_ok_iff.mp hentry
  exact ⟨schema, mapError_eq_ok_iff.mp hconvert⟩

theorem entries_eq_filterMap (h : d.entries = .ok es) :
    es = d.versions.filterMap d.entryOf? := by
  rw [entries, mapM_eq_ok_iff] at h
  calc es
    _ = (es.map Except.ok).filterMap (Except.toOption (ε := CatalogError)) := by
      rw [List.filterMap_map]
      exact List.filterMap_some.symm
    _ = d.versions.filterMap d.entryOf? := by
      rw [← h, List.filterMap_map, servedSchemas, List.filterMap_filterMap,
        List.filterMap_filter]
      refine List.filterMap_congr fun v _ => ?_
      rw [entryOf?]
      refine if_congr Iff.rfl ?_ rfl
      cases v.schema with
      | none => rfl
      | some declaration =>
          simp only [Option.map_some, Option.bind_some, Function.comp_apply]
          cases declaration.toSchema <;> rfl

/-- In a definition that converts the versions that make an entry are those that count. -/
theorem exists_entryOf?_iff (h : d.entries = .ok es) (hv : v ∈ d.versions) :
    (∃ schema, d.entryOf? v = some (key, schema)) ↔ d.Serves v key := by
  simp only [entryOf?_eq_some_iff, Serves]
  constructor
  · rintro ⟨schema, hserved, hkey, declaration, hdeclaration, -⟩
    exact ⟨hserved, by rw [hdeclaration]; exact nofun, hkey⟩
  · rintro ⟨hserved, hschema, hkey⟩
    obtain ⟨declaration, hdeclaration⟩ := Option.ne_none_iff_exists'.mp hschema
    obtain ⟨schema, hconvert⟩ := exists_toSchema_of_entries h hv hserved hdeclaration
    exact ⟨schema, hserved, hkey, declaration, hdeclaration, hconvert⟩

end TypeDefinition

/-! ## Definitions in a row -/

namespace Catalog

variable {definitions xs ys : List TypeDefinition} {catalog : Catalog} {key : TypeKey}

/-- The catalog of definitions in a row is that of the first ones, extended. -/
theorem ofDefinitions_append (xs ys : List TypeDefinition) :
    ofDefinitions (xs ++ ys) =
      match ofDefinitions xs, ofDefinitions ys with
      | .error e, _ => .error e
      | .ok _, .error e => .error e
      | .ok m, .ok n => .ok (Keyed.extend m n) := by
  simp only [ofDefinitions, List.mapM_append]
  cases xs.mapM TypeDefinition.entries with
  | error e => rfl
  | ok es =>
      cases ys.mapM TypeDefinition.entries with
      | error e => rfl
      | ok es' =>
          refine congrArg Except.ok ?_
          calc Keyed.ofList (es ++ es').flatten
            _ = Keyed.extend (Keyed.ofList es.flatten) es'.flatten := by
              rw [List.flatten_append, Keyed.ofList_append]
            _ = Keyed.extend (Keyed.ofList es.flatten) (Keyed.ofList es'.flatten) :=
              (Keyed.extend_ofList (Keyed.ascending_ofList _) _).symm

theorem ofDefinitions_append_eq_ok_iff :
    ofDefinitions (xs ++ ys) = .ok catalog ↔
      ∃ m n, ofDefinitions xs = .ok m ∧ ofDefinitions ys = .ok n ∧
        catalog = Keyed.extend m n := by
  rw [ofDefinitions_append]
  cases ofDefinitions xs with
  | error e => simp
  | ok m => cases ofDefinitions ys <;> simp [eq_comm]

/-- The versions of definitions, in order, each with the definition that has it. -/
def versions (definitions : List TypeDefinition) : List (TypeDefinition × DefinedVersion) :=
  definitions.flatMap fun d => d.versions.map (d, ·)

theorem mem_versions_iff {d : TypeDefinition} {v : DefinedVersion} :
    (d, v) ∈ versions definitions ↔ d ∈ definitions ∧ v ∈ d.versions := by
  simp [versions]

theorem lookup_ofDefinitions (h : ofDefinitions definitions = .ok catalog) (key : TypeKey) :
    catalog.lookup key =
      Keyed.get? key ((versions definitions).filterMap fun p => p.1.entryOf? p.2).reverse := by
  obtain ⟨hentries, rfl⟩ := ofDefinitions_eq_ok_iff.mp h
  rw [lookup_ofList, versions, List.filterMap_flatMap]
  congr 2
  refine List.flatMap_congr fun d hd => ?_
  rw [List.filterMap_map]
  exact TypeDefinition.entries_eq_filterMap (hentries d hd)

theorem exists_entryOf?_iff_of_mem_versions (h : ofDefinitions definitions = .ok catalog)
    {p : TypeDefinition × DefinedVersion} (hp : p ∈ versions definitions) :
    (∃ schema, p.1.entryOf? p.2 = some (key, schema)) ↔ p.1.Serves p.2 key := by
  obtain ⟨hd, hv⟩ := mem_versions_iff.mp hp
  exact TypeDefinition.exists_entryOf?_iff ((ofDefinitions_eq_ok_iff.mp h).1 _ hd) hv

theorem lookup_eq_none_iff (h : ofDefinitions definitions = .ok catalog) :
    catalog.lookup key = none ↔ ∀ p ∈ versions definitions, ¬ p.1.Serves p.2 key := by
  rw [lookup_ofDefinitions h, Keyed.get?_reverse_filterMap_eq_none_iff]
  refine forall₂_congr fun p hp => not_congr ?_
  exact exists_entryOf?_iff_of_mem_versions h hp

/-- What is found is the schema of the last version that counts, converted. -/
theorem lookup_eq_some_iff (h : ofDefinitions definitions = .ok catalog) {schema : Schema} :
    catalog.lookup key = some schema ↔
      ∃ d v declaration,
        LastWith (versions definitions) (fun p => p.1.Serves p.2 key) (d, v) ∧
          v.schema = some declaration ∧ declaration.toSchema = .ok schema := by
  rw [lookup_ofDefinitions h, Keyed.get?_reverse_filterMap_eq_some_iff, Prod.exists]
  refine exists₂_congr fun d v => ?_
  rw [LastWith.congr fun p hp => exists_entryOf?_iff_of_mem_versions h hp,
    TypeDefinition.entryOf?_eq_some_iff]
  constructor
  · rintro ⟨hlast, -, -, declaration, hdeclaration, hconvert⟩
    exact ⟨declaration, hlast, hdeclaration, hconvert⟩
  · rintro ⟨declaration, hlast, hdeclaration, hconvert⟩
    have ⟨_, _, _, ⟨hserved, _, hkey⟩, _⟩ := hlast
    exact ⟨hlast, hserved, hkey, declaration, hdeclaration, hconvert⟩

end Catalog

/-! ## Definitions in files -/

namespace CommandLine

/-- The file holds the definitions, one document each. -/
def Holds (files : Files) (path : String) (definitions : List TypeDefinition) : Prop :=
  ∃ text, files path = some text ∧
    (Json.Documents.parse? text).bind (·.mapM decode?) = some definitions

variable {files : Files} {paths : List String} {path : String}
  {catalog : Catalog}

theorem readCatalog_eq_ok_iff :
    readCatalog files path = .ok catalog ↔
      ∃ definitions, Holds files path definitions ∧
        Catalog.ofDefinitions definitions = .ok catalog := by
  rw [readCatalog, bind_eq_ok_iff]
  simp only [mapError_eq_ok_iff, Catalog.ofText, readText, Holds]
  cases files path with
  | none => simp
  | some text =>
      simp only [Except.ok.injEq, Option.some.injEq, exists_eq_left']
      split
      · next hfound => simp only [hfound, reduceCtorEq, false_and, exists_false]
      · next hfound => simp only [hfound, Option.some.injEq, exists_eq_left']

/-- Files that are read after some definitions are known add theirs to them. -/
theorem foldlM_readCatalog_eq_ok_iff {known : List TypeDefinition} {m : Catalog}
    (h : Catalog.ofDefinitions known = .ok m) :
    paths.foldlM (fun m path => return Keyed.extend m (← readCatalog files path)) m =
        .ok catalog ↔
      ∃ definitions, List.Forall₂ (Holds files) paths definitions ∧
        Catalog.ofDefinitions (known ++ definitions.flatten) = .ok catalog := by
  induction paths generalizing known m with
  | nil =>
      constructor
      · rintro ⟨⟩
        exact ⟨[], .nil, by rw [List.flatten_nil, List.append_nil, h]⟩
      · rintro ⟨_, ⟨⟩, hcatalog⟩
        rw [List.flatten_nil, List.append_nil, h] at hcatalog
        exact congrArg _ (Except.ok.inj hcatalog)
  | cons path rest ih =>
      rw [List.foldlM_cons, bind_eq_ok_iff]
      constructor
      · rintro ⟨_, hpath, hrest⟩
        obtain ⟨n, hn, ⟨⟩⟩ := bind_eq_ok_iff.mp hpath
        obtain ⟨ds, hds, hok⟩ := readCatalog_eq_ok_iff.mp hn
        have hknown := Catalog.ofDefinitions_append_eq_ok_iff.mpr ⟨m, n, h, hok, rfl⟩
        obtain ⟨dss, hdss, hcatalog⟩ := (ih hknown).mp hrest
        refine ⟨ds :: dss, .cons hds hdss, ?_⟩
        rw [List.flatten_cons, ← List.append_assoc]
        exact hcatalog
      · rintro ⟨_, hheld, hcatalog⟩
        obtain ⟨ds, dss, hds, hdss, rfl⟩ := List.forall₂_cons_left_iff.mp hheld
        rw [List.flatten_cons, ← List.append_assoc] at hcatalog
        obtain ⟨m', _, hknown, -⟩ := Catalog.ofDefinitions_append_eq_ok_iff.mp hcatalog
        obtain ⟨_, n, hm, hok, rfl⟩ := Catalog.ofDefinitions_append_eq_ok_iff.mp hknown
        cases h.symm.trans hm
        refine ⟨Keyed.extend m n, ?_, (ih hknown).mpr ⟨_, hdss, hcatalog⟩⟩
        exact bind_eq_ok_iff.mpr ⟨n, readCatalog_eq_ok_iff.mpr ⟨_, hds, hok⟩, rfl⟩

/-- Files are read as one list of definitions. -/
theorem readCatalogs_eq_ok_iff :
    readCatalogs files paths = .ok catalog ↔
      ∃ definitions, List.Forall₂ (Holds files) paths definitions ∧
        Catalog.ofDefinitions definitions.flatten = .ok catalog :=
  foldlM_readCatalog_eq_ok_iff (rfl : Catalog.ofDefinitions [] = .ok [])

end CommandLine

open CommandLine in
/-- Definitions may be spread over lists and files. A catalog of two lists is that of the
first one extended with that of the second, and fails as the first of the two that fails.
A catalog of files is that of all definitions in them. And wherever a definition stands,
the last version that counts for a type is the one that is found. -/
theorem Catalog.last_definition_stays :
    (∀ xs ys : List TypeDefinition,
      ofDefinitions (xs ++ ys) =
        match ofDefinitions xs, ofDefinitions ys with
        | .error e, _ => .error e
        | .ok _, .error e => .error e
        | .ok m, .ok n => .ok (Keyed.extend m n)) ∧
    (∀ (files : Files) (paths : List String) (catalog : Catalog),
      readCatalogs files paths = .ok catalog ↔
        ∃ definitions, List.Forall₂ (Holds files) paths definitions ∧
          ofDefinitions definitions.flatten = .ok catalog) ∧
    ∀ (definitions : List TypeDefinition) (catalog : Catalog),
      ofDefinitions definitions = .ok catalog → ∀ key : TypeKey,
        (∀ schema : Schema, catalog.lookup key = some schema ↔
          ∃ d v declaration,
            LastWith (versions definitions) (fun p => p.1.Serves p.2 key) (d, v) ∧
              v.schema = some declaration ∧ declaration.toSchema = .ok schema) ∧
        (catalog.lookup key = none ↔
          ∀ p ∈ versions definitions, ¬ p.1.Serves p.2 key) :=
  ⟨ofDefinitions_append, fun _ _ _ => readCatalogs_eq_ok_iff,
    fun _ _ h _ => ⟨fun _ => lookup_eq_some_iff h, lookup_eq_none_iff h⟩⟩

/-- A definition whose versions have scalar schemas, all of them under one name. -/
def TypeDefinition.ofScalars (types : List (Bool × String)) : TypeDefinition where
  name := "buckets.example.org"
  group := "example.org"
  kind := "Bucket"
  versions := types.map fun (served, type) => ⟨"v1", served, some { type := some type }⟩

/-- The last version is not served, and the one before it stands in another list. -/
theorem Catalog.last_definition_stays_scalars :
    ∃ catalog,
      ofDefinitions ([.ofScalars [(true, "string"), (true, "number")]] ++
        [.ofScalars [(true, "integer"), (false, "boolean")]]) = .ok catalog ∧
      catalog.lookup ⟨"example.org", "v1", "Bucket"⟩ = some (.scalar .integer) := by
  have hcatalog : ofDefinitions
      ([.ofScalars [(true, "string"), (true, "number")]] ++
        [.ofScalars [(true, "integer"), (false, "boolean")]]) =
      .ok [(⟨"example.org", "v1", "Bucket"⟩, .scalar .integer)] := rfl
  refine ⟨_, hcatalog, ((last_definition_stays.2.2 _ _ hcatalog _).1 _).mpr ?_⟩
  refine ⟨.ofScalars [(true, "integer"), (false, "boolean")], _, _,
    ⟨_, _, (rfl : _ = [_, _] ++ _ :: [_]), ⟨rfl, nofun, rfl⟩, ?_⟩, rfl, rfl⟩
  rintro _ (_ | ⟨_, ⟨⟩⟩) ⟨hserved, -⟩
  cases hserved

end ComposeLint
