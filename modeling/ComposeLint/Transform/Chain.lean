import ComposeLint.Finding
import ComposeLint.Json.Type
import ComposeLint.Transform.Operation

/-!
# Types along a chain of transforms

The type of a value is followed from the source of a patch through its transforms. Every
transform says what types it takes and what type it gives; the last type must fit the
destination. A type that is not known is taken by every transform. If a transform may give values
of types that have nothing in common, nothing can be said of the rest of the chain, and the chain
is accepted.
-/

namespace ComposeLint

/-- What is known of the type of a value in a chain. -/
inductive FlowType where
  | known (type : JsonType)
  /-- The schema does not tell. -/
  | unknown
  /-- It cannot be told from the transforms. -/
  | any
  deriving DecidableEq

namespace FlowType

def ofType? : Option JsonType → FlowType
  | some type => known type
  | none => unknown

def name : FlowType → String
  | known type => type.name
  | unknown => "unknown"
  | any => "any"

end FlowType

/-- The types that a transform takes. -/
inductive Accepted where
  | anything
  | oneOf (types : List JsonType)

namespace Accepted

def scalar : Accepted := oneOf [.string, .integer, .number, .boolean]
def numeric : Accepted := oneOf [.integer, .number]
def string : Accepted := oneOf [.string]
def array : Accepted := oneOf [.array]

def accepts : Accepted → JsonType → Bool
  | anything, _ => true
  | oneOf types, type => types.any (type.fits ·)

def description : Accepted → String
  | anything => "any"
  | oneOf types => " or ".intercalate (types.map JsonType.name)

end Accepted

/-- What is wrong with a chain. Indexes count transforms from zero. -/
inductive ChainError where
  | invalidTransform (index : Nat) (cause : TransformError)
  | inputMismatch (index : Nat) (expected : Accepted) (actual : JsonType)
  | unsupportedConversion (index : Nat) (source : JsonType) (target : ConvertTarget)
      (format : ConvertFormat)
  /-- There are no transforms, and the types of source and destination differ. -/
  | transformRequired (source destination : JsonType)
  | outputMismatch (output destination : JsonType)

namespace ChainError

def message : ChainError → String
  | invalidTransform index cause => s!"invalid transform at index {index}: " ++ cause.message
  | inputMismatch index expected actual =>
    s!"transform at index {index} expects input of type " ++ expected.description ++ ", got " ++
      actual.name
  | unsupportedConversion index source target format =>
    s!"transform at index {index} can't convert " ++ source.name ++ " to " ++ target.name ++
      " using format " ++ format.name
  | transformRequired source destination =>
    "the patch requires a transform, from and to field paths have different types (" ++
      source.name ++ " != " ++ destination.name ++ ")"
  | outputMismatch output destination =>
    "transformed output type and to field path have different types (" ++
      output.name ++ " != " ++ destination.name ++ ")"

/-- The finding at the patch that the transforms belong to: at the one that is to blame, or at
all of them. -/
def finding (e : ChainError) (patch : Path) (transforms : List Transform) : Finding :=
  let path := patch.child "transforms"
  match e with
  | invalidTransform index _ | inputMismatch index _ _ | unsupportedConversion index _ _ _ =>
    .invalid (path.item index) transforms[index]? e.message
  | transformRequired _ _ => .required path e.message
  | outputMismatch _ _ => .invalid path transforms e.message

end ChainError

def StringConversion.accepted : StringConversion → Accepted
  | toUpper | toLower | toBase64 | fromBase64 => .string
  | toJson | toSha1 | toSha256 | toSha512 | toAdler32 => .anything

def StringOperation.accepted : StringOperation → Accepted
  | format _ => .anything
  | convert conversion => conversion.accepted
  | trimPrefix _ | trimSuffix _ | regexp _ => .string
  | join _ => .array

def Operation.accepted : Operation → Accepted
  | convert _ => .scalar
  | math _ => .numeric
  | string operation => operation.accepted
  | map _ | matching _ => .string

def ConvertTarget.type : ConvertTarget → JsonType
  | string => .string
  | int | int64 => .integer
  | bool => .boolean
  | float64 => .number
  | object => .object
  | array => .array

/-- Whether values of one type can be converted to another with a format. -/
def ConvertFormat.supports (format : ConvertFormat) (source target : JsonType) : Bool :=
  match source, format with
  | .string, .none => target ∈ [JsonType.string, .integer, .number, .boolean]
  | .string, .quantity => target ∈ [JsonType.integer, .number]
  | .string, .json => target ∈ [JsonType.object, .array]
  | .integer, .none | .number, .none | .boolean, .none =>
    target ∈ [JsonType.string, .integer, .number, .boolean]
  | _, _ => false

/-- The type among those given that all of them fit, if there is one. -/
def FlowType.common : List JsonType → FlowType
  | [] => .any
  | type :: rest =>
    match rest.foldlM join type with
    | some type => .known type
    | none => .any
where
  /-- The wider of two types of which one fits the other. -/
  join (current type : JsonType) : Option JsonType :=
    if type.fits current then some current
    else if current.fits type then some type
    else none

/-- The types of the values that the patterns and the fallback may give. -/
def MatchTransform.resultTypes (t : MatchTransform) : List JsonType :=
  t.patterns.map (·.result.type) ++ (t.fallbackValue.map Json.type).toList

def MatchTransform.output (t : MatchTransform) (input : FlowType) : FlowType :=
  if t.fallbackTo = some .input then
    match input with
    | .known type => FlowType.common (t.resultTypes ++ [type])
    | .unknown | .any => .any
  else FlowType.common t.resultTypes

def MathOperation.output (input : FlowType) : FlowType :=
  match input with
  | .known type => .known type
  | .unknown | .any => .known .number

def StringOperation.output : StringOperation → JsonType
  | convert .toAdler32 => .integer
  | _ => .string

namespace Operation

/-- The type that the operation at an index gives for an input that it takes. -/
def output (index : Nat) (input : FlowType) : Operation → Except ChainError FlowType
  | convert config =>
    let target := config.toType.type
    let format := config.format.getD .none
    match input with
    | .known source =>
      if format.supports source target then .ok (.known target)
      else .error (.unsupportedConversion index source config.toType format)
    | .unknown | .any => .ok (.known target)
  | math _ => .ok (MathOperation.output input)
  | string operation => .ok (.known operation.output)
  | map pairs => .ok (FlowType.common (pairs.values.map Json.type))
  | matching config => .ok (config.output input)

/-- Checks the input of the operation at an index and gives its output. -/
def flow (op : Operation) (index : Nat) (input : FlowType) : Except ChainError FlowType :=
  match input with
  | .known type =>
    if op.accepted.accepts type then op.output index input
    else .error (.inputMismatch index op.accepted type)
  | .unknown | .any => op.output index input

end Operation

/-- Transforms in the order in which they are applied. -/
abbrev Chain := List Transform

namespace Chain

/-- Follows a type through transforms, the first of which has that index. -/
def flow (index : Nat) (input : FlowType) :
    Chain → Except ChainError FlowType
  | [] => .ok input
  | transform :: rest => do
    let operation ← transform.operation.mapError (ChainError.invalidTransform index)
    match ← operation.flow index input with
    -- Where nothing can be told any more, what follows need not be complete.
    | .any => return .any
    | output => flow (index + 1) output rest

/-- Compares what comes out of the transforms with the type of the destination. Types that are
not known are not compared. -/
def checkDestination (transforms : Chain) (source : Option JsonType) (output : FlowType)
    (destination : JsonType) : Except ChainError Unit :=
  if transforms.isEmpty then
    match source with
    | some source =>
      if source.fits destination then .ok () else .error (.transformRequired source destination)
    | none => .ok ()
  else
    match output with
    | .known output =>
      if output.fits destination then .ok () else .error (.outputMismatch output destination)
    | .unknown | .any => .ok ()

/-- Whether transforms turn a value of the source type into one that fits the destination. -/
def check (transforms : Chain) (source destination : Option JsonType) :
    Except ChainError Unit := do
  let output ← flow 0 (.ofType? source) transforms
  match destination with
  | none => return ()
  | some destination => checkDestination transforms source output destination

end Chain

end ComposeLint
