import ComposeLint.Catalog.Definition
import ComposeLint.Catalog.TypeKey
import ComposeLint.Json.Documents

/-!
# Catalogs of schemas

A catalog holds the schemas of resource types, one for each key. It is built from definitions:
every served version that has a schema gives an entry, and of two entries with one key the later
stays. A schema that does not convert makes the whole catalog fail.
-/

namespace ComposeLint

inductive CatalogError where
  /-- The schema of a version of a definition does not convert. -/
  | conversion (definition version : String) (cause : SchemaError)
  /-- A text does not hold definitions alone. -/
  | unreadable

def CatalogError.message : CatalogError → String
  | conversion definition version _ =>
    "failed to convert schema of version " ++ Text.quoted version ++ " of CRD " ++
      Text.quoted definition
  | unreadable => "failed to deserialize CRD from YAML"

abbrev SchemaLookup := TypeKey → Option Schema

namespace TypeDefinition

/-- The versions that are served and have a schema. -/
def servedSchemas (d : TypeDefinition) : List (String × Declaration) :=
  (d.versions.filter (·.served)).filterMap fun version => version.schema.map (version.name, ·)

/-- The entries that a definition makes, in the order of its versions. -/
def entries (d : TypeDefinition) : Except CatalogError (List (TypeKey × Schema)) :=
  d.servedSchemas.mapM fun (version, declaration) => do
    let schema ← declaration.toSchema.mapError (CatalogError.conversion d.name version)
    return (⟨d.group, version, d.kind⟩, schema)

end TypeDefinition

abbrev Catalog := Keyed TypeKey Schema

namespace Catalog

def lookup (c : Catalog) : SchemaLookup := fun key => Keyed.get? key c

def ofDefinitions (definitions : List TypeDefinition) : Except CatalogError Catalog := do
  return Keyed.ofList (← definitions.mapM TypeDefinition.entries).flatten

/-- The catalog of the definitions that a text holds, one document each. -/
def ofText (text : String) : Except CatalogError Catalog :=
  match (Json.Documents.parse? text).bind (·.mapM decode?) with
  | none => .error .unreadable
  | some definitions => ofDefinitions definitions

end Catalog

end ComposeLint
