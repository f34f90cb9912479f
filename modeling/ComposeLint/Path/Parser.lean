import ComposeLint.Path.Printer
import ComposeLint.Text.Quoted

/-!
# Reading a path

The text of a path is a run of items, names and brackets, with a dot before every name but the
first. A bracket holds a name in one kind of quotes, an index, or any other name.

The reader is a fold of one step over the characters. Its state is what has been read, the
number of bytes that took, and where in an item it stands; a text is a path if every step
succeeds and the last state is one that the text may end in.
-/

namespace ComposeLint

inductive PathError where
  | emptyField (position : Nat)
  | unclosedBracket (position : Nat)
  | emptyBracket (position : Nat)
  | unexpectedClosingBracket (position : Nat)
  | unexpectedCharacter (c : Char) (position : Nat)
  | indexTooLarge (digits : String)

def PathError.message : PathError → String
  | emptyField position => s!"field name at position {position} must not be empty"
  | unclosedBracket position => s!"bracket opened at position {position} is never closed"
  | emptyBracket position => s!"brackets at position {position} must not be empty"
  | unexpectedClosingBracket position => s!"unexpected closing bracket at position {position}"
  | unexpectedCharacter c position =>
    "unexpected character " ++ Text.quotedChar c ++
      s!" at position {position}, expected '.' or '['"
  | indexTooLarge digits => "failed to parse " ++ Text.quoted digits ++ " as array index"

namespace Path

def numeralValue (digits : List Char) : Nat :=
  digits.foldl (fun n c => n * 10 + (c.toNat - '0'.toNat)) 0

/-- The greatest index is `2 ^ 64 - 1`. -/
def indexBound : Nat := UInt64.size

/-- The text between two equal quotes `q`, if they are the first and the last character. -/
def unquote? (q : Char) : List Char → Option (List Char)
  | [] => none
  | c :: rest =>
    if c = q ∧ rest.getLast? = some q then some rest.dropLast else none

/-- The segment of a bracket with that content, the bracket standing at `position`. -/
def bracket (position : Nat) (content : List Char) : Except PathError Segment :=
  if content = [] then .error (.emptyBracket position)
  else
    -- What is quoted is a name, also if it is all digits.
    match (unquote? '\'' content).or (unquote? '"' content) with
    | some [] => .error (.emptyBracket position)
    | some name => .ok (.field (String.ofList name))
    | none =>
      if isNumeral content then
        if numeralValue content < indexBound then .ok (.index (numeralValue content))
        else .error (.indexTooLarge (String.ofList content))
      else .ok (.field (String.ofList content))

/-- Where in an item the reader stands. -/
inductive Place where
  /-- Before the first item. -/
  | start
  /-- After a dot: a name must follow. -/
  | dot
  /-- In a name, of which these characters were read, the last one first. -/
  | name (read : List Char)
  /-- In the bracket that was opened at that position. -/
  | bracket (opened : Nat) (read : List Char)
  /-- After a closing bracket. -/
  | closed

structure Reader where
  /-- Bytes read so far. -/
  position : Nat
  /-- The items that are complete. -/
  done : Path
  place : Place

namespace Reader

def initial : Reader := ⟨0, [], .start⟩

def step (r : Reader) (c : Char) : Except PathError Reader :=
  let next (done : Path) (place : Place) : Except PathError Reader :=
    .ok ⟨r.position + c.utf8Size, done, place⟩
  match r.place with
  | .start =>
    if c = '[' then next r.done (.bracket r.position [])
    else if isDelimiter c then .error (.emptyField r.position)
    else next r.done (.name [c])
  | .dot =>
    if isDelimiter c then .error (.emptyField r.position)
    else next r.done (.name [c])
  | .name read =>
    let done := r.done ++ [.field (String.ofList read.reverse)]
    if c = '.' then next done .dot
    else if c = '[' then next done (.bracket r.position [])
    else if c = ']' then .error (.unexpectedClosingBracket r.position)
    else next r.done (.name (c :: read))
  | .bracket opened read =>
    if c = ']' then do
      let segment ← bracket opened read.reverse
      next (r.done ++ [segment]) .closed
    else next r.done (.bracket opened (c :: read))
  | .closed =>
    if c = '.' then next r.done .dot
    else if c = '[' then next r.done (.bracket r.position [])
    else if c = ']' then .error (.unexpectedClosingBracket r.position)
    else .error (.unexpectedCharacter c r.position)

/-- The path of a text that ends here. -/
def finish (r : Reader) : Except PathError Path :=
  match r.place with
  | .start | .closed => .ok r.done
  | .dot => .error (.emptyField r.position)
  | .name read => .ok (r.done ++ [.field (String.ofList read.reverse)])
  | .bracket opened _ => .error (.unclosedBracket opened)

end Reader

def parseChars (s : List Char) : Except PathError Path := do
  (← s.foldlM Reader.step .initial).finish

/-- Reads a path. The empty text is the empty path. -/
def parse (text : String) : Except PathError Path := parseChars text.toList

end Path

end ComposeLint
