import ComposeLint.Path.Parser
import ComposeLint.Schema.Basic

/-!
# The field at the end of a path

A path is followed through a schema segment by segment. The answer is the type of the field, if
the schema knows it, and whether the field is mandatory: every segment names a declared property
that its object requires. A path that leaves the described part of a schema resolves to a field
of which nothing is known; a path that a schema rules out does not resolve.
-/

namespace ComposeLint

inductive ResolveError where
  | malformedPath (cause : PathError)
  | notAnObject (field : String) (typeName : String)
  | notAnArray (index : Nat) (typeName : String)
  | fieldNotFound (field : String)
  | indexOutOfRange (index count : Nat)

def ResolveError.message : ResolveError → String
  | malformedPath cause => "invalid field path: " ++ cause.message
  | notAnObject field typeName =>
    "trying to access field " ++ Text.quoted field ++ " of not an object: " ++ typeName
  | notAnArray _ typeName => "accessing by index a " ++ typeName ++ " field"
  | fieldNotFound field => "unable to find field: " ++ field
  | indexOutOfRange index count =>
    s!"index {index} is out of range, only {count} item schemas are declared"

structure Resolution where
  type : Option JsonType := none
  required : Bool := false
  deriving DecidableEq

inductive Schema.Step where
  | into (schema : Schema) (required : Bool)
  /-- Out of what the schema describes. -/
  | away

namespace Schema

def step (s : Schema) : Segment → Except ResolveError Step
  | .field name =>
    match s with
    | object shape =>
      match shape.rule name with
      | .declared schema => .ok (.into schema (shape.requires name))
      | .described schema => .ok (.into schema false)
      | .free => .ok .away
      | .forbidden => .error (.fieldNotFound name)
    | unknown => .error (.fieldNotFound name)
    | array _ | scalar _ => .error (.notAnObject name s.typeName)
  | .index n =>
    match s with
    | array .any => .ok .away
    | array (.each schema) => .ok (.into schema false)
    | array (.positional schemas) =>
      match schemas[n]? with
      | some schema => .ok (.into schema false)
      | none => .error (.indexOutOfRange n schemas.length)
    | object _ | scalar _ | unknown => .error (.notAnArray n s.typeName)

/-- Follows a path; `required` tells whether all segments so far were mandatory. -/
def walk (s : Schema) (required : Bool) : Path → Except ResolveError Resolution
  | [] => .ok ⟨s.type?, required⟩
  | segment :: rest =>
    match s.step segment with
    | .error e => .error e
    | .ok .away => .ok {}
    | .ok (.into schema mandatory) => schema.walk (required && mandatory) rest

/-- The field at a path. Paths into the metadata of an object are followed through the schema of
metadata. -/
def resolve (s : Schema) (path : Path) : Except ResolveError Resolution :=
  match path with
  | [] => .ok {}
  | .field "metadata" :: rest => metadata.walk (!rest.isEmpty) rest
  | path => s.walk true path

/-- The field at the path that a text spells. -/
def resolveText (s : Schema) (text : String) : Except ResolveError Resolution :=
  match Path.parse text with
  | .error e => .error (.malformedPath e)
  | .ok path => s.resolve path

end Schema

end ComposeLint
