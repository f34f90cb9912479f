import ComposeLint.Catalog.Basic
import ComposeLint.Composition.Basic

/-!
# The types that a composition refers to

Of the definitions that a cluster lists, only those of the groups and kinds that a composition
refers to are needed to check it. The others are not converted, so a fault in one of them does no
harm.
-/

namespace ComposeLint

/-- What a cluster answers when it is asked for its definitions. -/
structure Listing where
  /-- The status of the answer; a failure is 400 or more. -/
  status : Int
  items : List Json

inductive FetchError where
  /-- The cluster refused to answer, or what it lists is not all definitions. -/
  | listing
  | catalog (cause : CatalogError)

def FetchError.message : FetchError → String
  | listing => "failed to list CustomResourceDefinitions"
  | catalog _ => "failed to build schemas from fetched CRDs"

namespace Composition

/-- The types that a composition refers to. A base without a type refers to none. -/
def references (c : Composition) : List TypeKey :=
  c.spec.compositeType.key :: c.spec.resources.filterMap (·.base.typeKey.toOption)

/-- Whether a definition has the group and the kind of a type that the composition refers to. -/
def refersTo (c : Composition) (d : TypeDefinition) : Bool :=
  c.references.any fun key => key.group = d.group && key.kind = d.kind

def catalog (c : Composition) (definitions : List TypeDefinition) : Except CatalogError Catalog :=
  Catalog.ofDefinitions (definitions.filter c.refersTo)

/-- The catalog of what a cluster lists. -/
def fetch (c : Composition) (answer : Listing) : Except FetchError Catalog :=
  if answer.status ≥ 400 then .error .listing
  else
    match answer.items.mapM decode? with
    | none => .error .listing
    | some definitions => (c.catalog definitions).mapError .catalog

end Composition

end ComposeLint
