import ComposeLint.Json.Form
import ComposeLint.Schema.Declaration.Reader

/-!
# Definitions of resource types

A custom resource definition gives a group and a kind, and a schema for each of its versions.
Reading is lenient: what is missing or null has its default, but what is there must have its
form, and a definition that names an API version or a kind must name its own.
-/

namespace ComposeLint

structure DefinedVersion where
  name : String
  served : Bool
  schema : Option Declaration

structure TypeDefinition where
  /-- The name of the definition itself. -/
  name : String
  group : String
  kind : String
  versions : List DefinedVersion

namespace TypeDefinition

section Forms

open Json.Form

def metadataForm : Json.Form :=
  record
    [("annotations", map text), ("creationTimestamp", text),
      ("deletionGracePeriodSeconds", integer), ("deletionTimestamp", text),
      ("finalizers", list text), ("generateName", text), ("generation", integer),
      ("labels", map text),
      ("managedFields", list (record
        [("apiVersion", text), ("fieldsType", text), ("manager", text), ("operation", text),
          ("subresource", text), ("time", text)])),
      ("name", text), ("namespace", text),
      ("ownerReferences", list (record
        [("apiVersion", text), ("blockOwnerDeletion", flag), ("controller", flag),
          ("kind", text), ("name", text), ("uid", text)])),
      ("resourceVersion", text), ("selfLink", text), ("uid", text)]

def namesForm : Json.Form :=
  record
    [("categories", list text), ("kind", text), ("listKind", text), ("plural", text),
      ("shortNames", list text), ("singular", text)]

/-- A version without its schema. -/
def versionForm : Json.Form :=
  record
    [("additionalPrinterColumns", list (record
        [("description", text), ("format", text), ("jsonPath", text), ("name", text),
          ("priority", shortInteger), ("type", text)])),
      ("deprecated", flag), ("deprecationWarning", text), ("name", text),
      ("schema", record []),
      ("selectableFields", list (record [("jsonPath", text)])),
      ("served", flag), ("storage", flag),
      ("subresources", record
        [("scale", record
          [("labelSelectorPath", text), ("specReplicasPath", text),
            ("statusReplicasPath", text)])])]

def specForm : Json.Form :=
  record
    [("conversion", record
        [("strategy", text),
          ("webhook", record
            [("clientConfig", record
                [("caBundle", text),
                  ("service", record
                    [("name", text), ("namespace", text), ("path", text),
                      ("port", shortInteger)]),
                  ("url", text)]),
              ("conversionReviewVersions", list text)])]),
      ("group", text), ("names", namesForm), ("preserveUnknownFields", flag), ("scope", text),
      ("versions", list versionForm)]

def statusForm : Json.Form :=
  record
    [("acceptedNames", namesForm),
      ("conditions", list (record
        [("lastTransitionTime", text), ("message", text), ("observedGeneration", integer),
          ("reason", text), ("status", text), ("type", text)])),
      ("observedGeneration", integer), ("storedVersions", list text)]

def form : Json.Form :=
  record [("metadata", metadataForm), ("spec", specForm), ("status", statusForm)]

end Forms

open Member

instance : Decode DefinedVersion where
  decode? := Json.readMembers? fun members => do
    let validation ← lenient "schema" (Json.obj []) members
    return {
      name := ← lenient "name" "" members
      served := ← lenient "served" false members
      schema := ← validation.readMembers? (optional "openAPIV3Schema") }

/-- Whether a member is missing or is that text. -/
def isOwn (name value : String) (members : Keyed String Json) : Bool :=
  match Keyed.get? name members with
  | none => true
  | some (.str s) => s = value
  | some _ => false

instance : Decode TypeDefinition where
  decode? v := do
    if !form.accepts v then none
    else
      v.readMembers? fun members => do
        if !isOwn "apiVersion" "apiextensions.k8s.io/v1" members ||
            !isOwn "kind" "CustomResourceDefinition" members then none
        else
          let empty := Json.obj []
          let metadata ← lenient "metadata" empty members
          let name ← metadata.readMembers? (optional "name")
          let generateName ← metadata.readMembers? (optional "generateName")
          let spec ← lenient "spec" empty members
          let names ← spec.readMembers? (lenient "names" empty)
          return {
            name := (name.or generateName).getD ""
            group := ← spec.readMembers? (lenient "group" "")
            kind := ← names.readMembers? (lenient "kind" "")
            versions := ← spec.readMembers? (lenient "versions" []) }

end TypeDefinition

end ComposeLint
