import ComposeLint.Patch.Action
import ComposeLint.Schema.Resolve
import ComposeLint.Transform.Chain

/-!
# Checking a patch

A patch is checked against the schemas of the objects that it goes between. Its fields must
resolve; a mandatory destination needs a mandatory source, unless the patch fails without its
source; and the transforms must turn the type of the source into that of the destination. A
combination of several fields is always a text. Patches of the environment have no schemas to be
checked against and are accepted.
-/

namespace ComposeLint

/-- What is wrong with a patch that has an action. -/
inductive PatchFault where
  | unresolvedSource (path : String) (cause : ResolveError)
  | unresolvedDestination (path : String) (cause : ResolveError)
  /-- The destination is mandatory, the source is not. -/
  | optionalSource (source destination : String)
  /-- A variable of a combination does not resolve. -/
  | unresolvedVariable (combine : Combine) (index : Nat) (path : String) (cause : ResolveError)
  /-- The destination is mandatory, one of the variables is not. -/
  | optionalVariables (combine : Combine) (destination : String)
  | missingStringFormat
  | unknownStrategy (name : String)
  | chain (transforms : List Transform) (cause : ChainError)

/-- The finding at the patch with that path. -/
def PatchFault.finding (patch : Path) : PatchFault → Finding
  | unresolvedSource path cause => .invalid (patch.child "fromFieldPath") path cause.message
  | unresolvedDestination path cause => .invalid (patch.child "toFieldPath") path cause.message
  | optionalSource source destination =>
    .invalid (patch.child "fromFieldPath") source
      ("from field path is not required but to field path is (" ++ destination ++ ")")
  | unresolvedVariable combine index path cause =>
    .invalid (patch.child "combine") combine.sources
      (s!"variable {index} (" ++ path ++ "): " ++ cause.message)
  | optionalVariables combine destination =>
    .invalid (patch.child "combine") combine.sources
      ("from field paths (" ++ ", ".intercalate (combine.sources.map (·.fromFieldPath)) ++
        ") are not required but to field path is (" ++ destination ++ ")")
  | missingStringFormat =>
    .required (Path.child (patch.child "combine") "string")
      "string combine strategy requires configuration"
  | unknownStrategy name =>
    .invalid (Path.child (patch.child "combine") "strategy") name
      "combine strategy is not supported"
  | chain transforms cause => cause.finding patch transforms

/-- The schemas at the two ends of a patch. -/
structure Ends where
  source : Schema
  destination : Schema

/-- The schemas of the composite and the composed resource, as source and destination. -/
def Direction.ends? (composite composed : Schema) : Direction → Option Ends
  | fromComposite => some ⟨composite, composed⟩
  | toComposite => some ⟨composed, composite⟩
  | fromEnvironment | toEnvironment => none

namespace Patch

def chainFaults (p : Patch) (source destination : Option JsonType) : List PatchFault :=
  match Chain.check p.transforms source destination with
  | .ok () => []
  | .error e => [.chain p.transforms e]

def copyFaults (p : Patch) (ends : Ends) (source destination : String) : List PatchFault :=
  match ends.source.resolveText source with
  | .error e => [.unresolvedSource source e]
  | .ok fromField =>
    match ends.destination.resolveText destination with
    | .error e => [.unresolvedDestination destination e]
    | .ok toField =>
      if toField.required && !(fromField.required || p.requiresSource) then
        [.optionalSource source destination]
      else p.chainFaults fromField.type toField.type

/-- The variables with their positions and what they resolve to. -/
def resolveVariables (combine : Combine) (source : Schema) :
    List (Nat × String × Except ResolveError Resolution) :=
  combine.sources.zipIdx.map fun (v, index) =>
    (index, v.fromFieldPath, source.resolveText v.fromFieldPath)

/-- The faults of the strategy and the transforms of a combination. -/
def strategyFaults (p : Patch) (combine : Combine) (destination : Option JsonType) :
    List PatchFault :=
  match CombineStrategy.ofName? combine.strategy with
  | none => [.unknownStrategy combine.strategy]
  | some .string =>
    if combine.string.isNone then [.missingStringFormat]
    else p.chainFaults (some .string) destination

def combineFaults (p : Patch) (ends : Ends) (combine : Combine) (destination : String) :
    List PatchFault :=
  let resolved := resolveVariables combine ends.source
  let unresolved := resolved.filterMap fun (index, path, result) =>
    match result with
    | .error e => some (PatchFault.unresolvedVariable combine index path e)
    | .ok _ => none
  let allRequired := resolved.all fun (_, _, result) =>
    match result with
    | .error _ => true
    | .ok field => field.required
  match unresolved, ends.destination.resolveText destination with
  | unresolved, .error e => unresolved ++ [.unresolvedDestination destination e]
  | [], .ok toField =>
    if toField.required && !(allRequired || p.requiresSource) then
      [.optionalVariables combine destination]
    else p.strategyFaults combine toField.type
  | unresolved, .ok _ => unresolved

/-- The faults of an action between resources with these schemas. -/
def actionFaults (p : Patch) (composite composed : Schema) : PatchAction → List PatchFault
  | .copy direction source destination =>
    match direction.ends? composite composed with
    | some ends => p.copyFaults ends source destination
    | none => []
  | .combine direction combine destination =>
    match direction.ends? composite composed with
    | some ends => p.combineFaults ends combine destination
    | none => []
  | .splice _ => []

def check (p : Patch) (path : Path) (composite composed : Schema) : List Finding :=
  if !p.kind.isCheckable then []
  else
    match p.action with
    | .error e => [e.finding path]
    | .ok action => (p.actionFaults composite composed action).map (PatchFault.finding path)

def path (template patch : Nat) : Path :=
  [.field "spec", .field "resources", .index template, .field "patches", .index patch]

end Patch

end ComposeLint
