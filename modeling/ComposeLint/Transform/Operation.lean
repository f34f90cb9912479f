import ComposeLint.Regex.Check
import ComposeLint.Text.Quoted
import ComposeLint.Transform.Basic

/-!
# What a transform does

The operation of a transform is its configuration with all that its type needs at hand. A
transform has no operation if some of that is missing, if a map has no pairs, if a match can give
no value, or if a regular expression does not compile.
-/

namespace ComposeLint

inductive MathOperation where
  | multiply (n : Int64)
  | clampMin (n : Int64)
  | clampMax (n : Int64)

inductive StringOperation where
  | format (fmt : String)
  | convert (conversion : StringConversion)
  | trimPrefix (trim : String)
  | trimSuffix (trim : String)
  | regexp (extract : RegexpExtract)
  | join (separator : String)

inductive Operation where
  | convert (config : ConvertTransform)
  | math (operation : MathOperation)
  | string (operation : StringOperation)
  | map (pairs : Keyed String Json)
  | matching (config : MatchTransform)

inductive TransformError where
  | missingConfig (type : TransformType)
  | missingMathField (type : MathType)
  | missingStringField (type : StringType)
  | missingPatternField (type : PatternType)
  | emptyMap
  | emptyMatch
  | invalidRegex (pattern : String)

/-- The field that a type of arithmetic needs. -/
def MathType.field : MathType → String
  | multiply => "multiply"
  | clampMin => "clampMin"
  | clampMax => "clampMax"

def StringType.field : StringType → String
  | format => "fmt"
  | convert => "convert"
  | trimPrefix | trimSuffix => "trim"
  | regexp => "regexp"
  | join => "join"

def PatternType.field : PatternType → String
  | literal => "literal"
  | regexp => "regexp"

def TransformError.message : TransformError → String
  | missingConfig type => "given transform type " ++ type.name ++ " requires configuration"
  | missingMathField type =>
    type.field ++ " is required by math transform of type " ++ type.name
  | missingStringField type =>
    type.field ++ " is required by string transform of type " ++ type.name
  | missingPatternField type =>
    type.field ++ " is required by match pattern of type " ++ type.name
  | emptyMap => "map transform requires at least one pair"
  | emptyMatch => "match transform requires at least one pattern or a fallback"
  | invalidRegex pattern => "failed to compile regular expression " ++ Text.quoted pattern

/-- A value that must be there, and the error if it is not. -/
def TransformError.unless {α : Type} (e : TransformError) : Option α → Except TransformError α
  | some x => .ok x
  | none => .error e

def MathTransform.operation (t : MathTransform) : Except TransformError MathOperation :=
  let type := t.type.getD .multiply
  let needed (value : Option Int64) (make : Int64 → MathOperation) :=
    ((TransformError.missingMathField type).unless value).map make
  match type with
  | .multiply => needed t.multiply .multiply
  | .clampMin => needed t.clampMin .clampMin
  | .clampMax => needed t.clampMax .clampMax

def Transform.checkPattern (pattern : String) : Except TransformError Unit :=
  if Regex.isValid pattern then .ok () else .error (.invalidRegex pattern)

def StringTransform.operation (t : StringTransform) : Except TransformError StringOperation :=
  let type := t.type.getD .format
  let needed {α : Type} (value : Option α) : Except TransformError α :=
    (TransformError.missingStringField type).unless value
  match type with
  | .format => (needed t.fmt).map .format
  | .convert => (needed t.convert).map .convert
  | .trimPrefix => (needed t.trim).map .trimPrefix
  | .trimSuffix => (needed t.trim).map .trimSuffix
  | .regexp => do
    let extract ← needed t.regexp
    Transform.checkPattern extract.pattern
    return .regexp extract
  | .join => (needed t.join).map (.join ·.separator)

def MatchPattern.check (p : MatchPattern) : Except TransformError Unit := do
  match p.type with
  | .literal => discard ((TransformError.missingPatternField .literal).unless p.literal)
  | .regexp =>
    Transform.checkPattern (← (TransformError.missingPatternField .regexp).unless p.regexp)

/-- A match must be able to give a value, and all of its patterns must be complete. -/
def MatchTransform.check (t : MatchTransform) : Except TransformError Unit :=
  if t.patterns.isEmpty && t.fallbackValue.isNone && t.fallbackTo ≠ some .input then
    .error .emptyMatch
  else t.patterns.forM MatchPattern.check

def Transform.operation (t : Transform) : Except TransformError Operation :=
  let config {α : Type} (value : Option α) : Except TransformError α :=
    (TransformError.missingConfig t.type).unless value
  match t.type with
  | .convert => (config t.convert).map .convert
  | .math => do return .math (← (← config t.math).operation)
  | .string => do return .string (← (← config t.string).operation)
  | .map => do
    let pairs ← config t.map
    if pairs.isEmpty then .error .emptyMap else return .map pairs
  | .matching => do
    let config ← config t.matching
    config.check
    return .matching config

end ComposeLint
