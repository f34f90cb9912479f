import ComposeLint.Json.Reader

/-!
# Several documents in one text

A file may hold several documents, separated by lines that start with three dashes. What stands
before the first separator is a document only if it is not blank; a document that is blank after
a separator is an object without members.
-/

namespace ComposeLint.Json.Documents

/-- A separator: three dashes, alone on the line or before a blank. -/
def isSeparator : List Char → Bool
  | '-' :: '-' :: '-' :: rest => rest.head?.all Reader.isBlank
  | _ => false

def lines (text : String) : List (List Char) := text.toList.splitOn '\n'

/-- The documents as lists of lines: the one before the first separator, and those after. -/
def sections : List (List Char) → List (List Char) × List (List (List Char))
  | [] => ([], [])
  | line :: rest =>
    let (first, others) := sections rest
    if isSeparator line then ([], (line.drop 3 :: first) :: others)
    else (line :: first, others)

def isBlank (document : List (List Char)) : Bool := document.all (·.all Reader.isBlank)

def read? (document : List (List Char)) : Option Json :=
  if isBlank document then some (.obj [])
  else parse? (String.ofList ((document.intersperse ['\n']).flatten))

/-- The documents of a text in order, `none` if one of them cannot be read. -/
def parse? (text : String) : Option (List Json) :=
  let (first, others) := sections (lines text)
  (if isBlank first then others else first :: others).mapM read?

end ComposeLint.Json.Documents
