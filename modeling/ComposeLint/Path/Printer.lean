import ComposeLint.Path.Basic

/-!
# Text of a path

A name is written bare where it can be, after a dot unless it is the first. A name that is empty
or holds a dot or a bracket stands in brackets, and one of digits alone also in quotes, so that it
does not read as an index.
-/

namespace ComposeLint

namespace Path

/-- A character that ends a bare name. -/
def isDelimiter (c : Char) : Bool := c = '.' || c = '[' || c = ']'

/-- Whether all characters are ASCII digits; so they are of an empty name. -/
def isNumeral (name : List Char) : Bool := name.all Char.isDigit

/-- Whether a name cannot be written bare. -/
def needsBrackets (name : List Char) : Bool := name.any isDelimiter || isNumeral name

end Path

namespace Segment

open ComposeLint.Path

def chars : Segment → List Char
  | field name =>
    let name := name.toList
    if isNumeral name then '[' :: '\'' :: name ++ ['\'', ']']
    else if needsBrackets name then '[' :: name ++ [']']
    else name
  | index n => '[' :: Nat.toDigits 10 n ++ [']']

def isBare : Segment → Bool
  | field name => !needsBrackets name.toList
  | index _ => false

/-- A segment after others. -/
def charsAfter (s : Segment) : List Char := if s.isBare then '.' :: s.chars else s.chars

def render (s : Segment) : String := String.ofList s.chars

end Segment

namespace Path

def chars : Path → List Char
  | [] => []
  | first :: rest => first.chars ++ rest.flatMap Segment.charsAfter

/-- The canonical text of a path. -/
def render (path : Path) : String := String.ofList (chars path)

end Path

end ComposeLint
