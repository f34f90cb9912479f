import ComposeLint.Json.Codec

/-!
# Transforms

A transform changes a value on its way from the source of a patch to its destination. It names
its type and carries the configuration of any number of types; that of its own type is the one
that counts. Types that are left out have a default.
-/

namespace ComposeLint

open Member

inductive TransformType where
  | map
  | matching
  | math
  | string
  | convert
  deriving DecidableEq

namespace TransformType

def all : List TransformType := [map, matching, math, string, convert]

def name : TransformType → String
  | map => "map"
  | matching => "match"
  | math => "math"
  | string => "string"
  | convert => "convert"

instance : Decode TransformType := ⟨Json.named? name all⟩
instance : Encode TransformType := ⟨fun t => .str t.name⟩

end TransformType

inductive MathType where
  | multiply
  | clampMin
  | clampMax
  deriving DecidableEq

namespace MathType

def all : List MathType := [multiply, clampMin, clampMax]

def name : MathType → String
  | multiply => "Multiply"
  | clampMin => "ClampMin"
  | clampMax => "ClampMax"

instance : Decode MathType := ⟨Json.named? name all⟩
instance : Encode MathType := ⟨fun t => .str t.name⟩

end MathType

/-- Arithmetic on a number, by default a multiplication. -/
structure MathTransform where
  type : Option MathType
  multiply : Option Int64
  clampMin : Option Int64
  clampMax : Option Int64

instance : Decode MathTransform where
  decode? := Json.readMembers? fun members => do
    return {
      type := ← optional "type" members
      multiply := ← optional "multiply" members
      clampMin := ← optional "clampMin" members
      clampMax := ← optional "clampMax" members }

instance : Encode MathTransform where
  encode t := .obj (writeOptional "clampMax" t.clampMax ++ writeOptional "clampMin" t.clampMin ++
    writeOptional "multiply" t.multiply ++ writeOptional "type" t.type)

inductive StringType where
  | format
  | convert
  | trimPrefix
  | trimSuffix
  | regexp
  | join
  deriving DecidableEq

namespace StringType

def all : List StringType := [format, convert, trimPrefix, trimSuffix, regexp, join]

def name : StringType → String
  | format => "Format"
  | convert => "Convert"
  | trimPrefix => "TrimPrefix"
  | trimSuffix => "TrimSuffix"
  | regexp => "Regexp"
  | join => "Join"

instance : Decode StringType := ⟨Json.named? name all⟩
instance : Encode StringType := ⟨fun t => .str t.name⟩

end StringType

inductive StringConversion where
  | toUpper
  | toLower
  | toBase64
  | fromBase64
  | toJson
  | toSha1
  | toSha256
  | toSha512
  | toAdler32
  deriving DecidableEq

namespace StringConversion

def all : List StringConversion :=
  [toUpper, toLower, toBase64, fromBase64, toJson, toSha1, toSha256, toSha512, toAdler32]

def name : StringConversion → String
  | toUpper => "ToUpper"
  | toLower => "ToLower"
  | toBase64 => "ToBase64"
  | fromBase64 => "FromBase64"
  | toJson => "ToJson"
  | toSha1 => "ToSha1"
  | toSha256 => "ToSha256"
  | toSha512 => "ToSha512"
  | toAdler32 => "ToAdler32"

instance : Decode StringConversion := ⟨Json.named? name all⟩
instance : Encode StringConversion := ⟨fun c => .str c.name⟩

end StringConversion

/-- A part of the text that a pattern finds. -/
structure RegexpExtract where
  pattern : String
  group : Option Int64

instance : Decode RegexpExtract where
  decode? := Json.readMembers? fun members => do
    return { pattern := ← required "match" members, group := ← optional "group" members }

instance : Encode RegexpExtract where
  encode r := .obj (writeOptional "group" r.group ++ write "match" r.pattern)

/-- The items of a list in one text. -/
structure JoinItems where
  separator : String

instance : Decode JoinItems where
  decode? := Json.readMembers? fun members => do
    return { separator := ← required "separator" members }

instance : Encode JoinItems where
  encode j := .obj (write "separator" j.separator)

/-- An operation on texts, by default a format. -/
structure StringTransform where
  type : Option StringType
  fmt : Option String
  convert : Option StringConversion
  /-- The prefix or suffix to take off. -/
  trim : Option String
  regexp : Option RegexpExtract
  join : Option JoinItems

instance : Decode StringTransform where
  decode? := Json.readMembers? fun members => do
    return {
      type := ← optional "type" members
      fmt := ← optional "fmt" members
      convert := ← optional "convert" members
      trim := ← optional "trim" members
      regexp := ← optional "regexp" members
      join := ← optional "join" members }

instance : Encode StringTransform where
  encode t := .obj (writeOptional "convert" t.convert ++ writeOptional "fmt" t.fmt ++
    writeOptional "join" t.join ++ writeOptional "regexp" t.regexp ++
    writeOptional "trim" t.trim ++ writeOptional "type" t.type)

inductive PatternType where
  | literal
  | regexp
  deriving DecidableEq

namespace PatternType

def all : List PatternType := [literal, regexp]

def name : PatternType → String
  | literal => "Literal"
  | regexp => "Regexp"

instance : Decode PatternType := ⟨Json.named? name all⟩
instance : Encode PatternType := ⟨fun t => .str t.name⟩

end PatternType

/-- A pattern and the value it gives. -/
structure MatchPattern where
  type : PatternType
  literal : Option String
  regexp : Option String
  result : Json

instance : Decode MatchPattern where
  decode? := Json.readMembers? fun members => do
    return {
      type := ← required "type" members
      literal := ← optional "literal" members
      regexp := ← optional "regexp" members
      result := ← required "result" members }

instance : Encode MatchPattern where
  encode p := .obj (writeOptional "literal" p.literal ++ writeOptional "regexp" p.regexp ++
    write "result" p.result ++ write "type" p.type)

inductive Fallback where
  | value
  | input
  deriving DecidableEq

namespace Fallback

def all : List Fallback := [value, input]

def name : Fallback → String
  | value => "Value"
  | input => "Input"

instance : Decode Fallback := ⟨Json.named? name all⟩
instance : Encode Fallback := ⟨fun f => .str f.name⟩

end Fallback

/-- The value of the first pattern that matches, else a fallback: a value, or the input. -/
structure MatchTransform where
  patterns : List MatchPattern
  fallbackValue : Option Json
  fallbackTo : Option Fallback

instance : Decode MatchTransform where
  decode? := Json.readMembers? fun members => do
    return {
      patterns := ← list "patterns" members
      fallbackValue := ← optional "fallbackValue" members
      fallbackTo := ← optional "fallbackTo" members }

instance : Encode MatchTransform where
  encode t := .obj (writeOptional "fallbackTo" t.fallbackTo ++
    writeOptional "fallbackValue" t.fallbackValue ++ writeList "patterns" t.patterns)

inductive ConvertTarget where
  | string
  | int
  | int64
  | bool
  | float64
  | object
  | array
  deriving DecidableEq

namespace ConvertTarget

def all : List ConvertTarget := [string, int, int64, bool, float64, object, array]

def name : ConvertTarget → String
  | string => "string"
  | int => "int"
  | int64 => "int64"
  | bool => "bool"
  | float64 => "float64"
  | object => "object"
  | array => "array"

instance : Decode ConvertTarget := ⟨Json.named? name all⟩
instance : Encode ConvertTarget := ⟨fun t => .str t.name⟩

end ConvertTarget

inductive ConvertFormat where
  | none
  | quantity
  | json
  deriving DecidableEq

namespace ConvertFormat

def all : List ConvertFormat := [none, quantity, json]

def name : ConvertFormat → String
  | none => "none"
  | quantity => "quantity"
  | json => "json"

instance : Decode ConvertFormat := ⟨Json.named? name all⟩
instance : Encode ConvertFormat := ⟨fun f => .str f.name⟩

end ConvertFormat

/-- A change of type, by default without a format. -/
structure ConvertTransform where
  toType : ConvertTarget
  format : Option ConvertFormat

instance : Decode ConvertTransform where
  decode? := Json.readMembers? fun members => do
    return { toType := ← required "toType" members, format := ← optional "format" members }

instance : Encode ConvertTransform where
  encode t := .obj (writeOptional "format" t.format ++ write "toType" t.toType)

structure Transform where
  type : TransformType
  math : Option MathTransform
  /-- Values for the texts that may come in. -/
  map : Option (Keyed String Json)
  matching : Option MatchTransform
  string : Option StringTransform
  convert : Option ConvertTransform

instance : Decode Transform where
  decode? := Json.readMembers? fun members => do
    return {
      type := ← required "type" members
      math := ← optional "math" members
      map := ← optional "map" members
      matching := ← optional "match" members
      string := ← optional "string" members
      convert := ← optional "convert" members }

instance : Encode Transform where
  encode t := .obj (writeOptional "convert" t.convert ++ writeOptional "map" t.map ++
    writeOptional "match" t.matching ++ writeOptional "math" t.math ++
    writeOptional "string" t.string ++ write "type" t.type)

end ComposeLint
