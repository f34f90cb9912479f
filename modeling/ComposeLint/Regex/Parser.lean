import ComposeLint.Regex.Basic
import ComposeLint.Regex.Property
import ComposeLint.Text.Letters

/-!
# Reading a pattern

A recursive descent over the characters of a pattern. The state is what is left to read, whether
blanks and comments are passed over, and the names of groups so far, of which no two may be
equal. Every step takes at least one character in a bounded number of calls, so fuel in
proportion to the length of the pattern is enough.

Look-around, back-references and atomic groups do not exist. A brace, parenthesis or bracket that
opens must be closed or escaped, closing braces and brackets on their own stand for themselves,
and so does an escaped punctuation mark.
-/

namespace ComposeLint.Regex

structure State where
  rest : List Char
  extended : Bool := false
  names : List (List Char) := []

abbrev Parser (α : Type) := StateT State Option α

namespace Parser

/-- Drops blanks and comments. -/
def dropBlanks (inComment : Bool) : List Char → List Char
  | [] => []
  | c :: rest =>
    if inComment then dropBlanks (c ≠ '\n') rest
    else if Text.isBlank c then dropBlanks false rest
    else if c = '#' then dropBlanks true rest
    else c :: rest

def fail {α : Type} : Parser α := fun _ => none

/-- Passes over blanks and comments if they do not count. -/
def skip : Parser Unit :=
  modify fun st => if st.extended then { st with rest := dropBlanks false st.rest } else st

def peek? : Parser (Option Char) := return (← get).rest.head?

def next : Parser Char := fun st =>
  match st.rest with
  | [] => none
  | c :: rest => some (c, { st with rest })

/-- The next character after blanks, which must be there but is not taken. -/
def ahead : Parser Char := do
  skip
  match ← peek? with
  | some c => return c
  | none => fail

/-- Takes the next characters if they are the given ones. -/
def take? (s : List Char) : Parser Bool := fun st =>
  if s.isPrefixOf st.rest then some (true, { st with rest := st.rest.drop s.length })
  else some (false, st)

def expect (c : Char) : Parser Unit := do
  if (← next) ≠ c then fail

/-! ## Numbers -/

def dropWhiteSpace : Parser Unit :=
  modify fun st => { st with rest := st.rest.dropWhile Text.isBlank }

def digits : Nat → Parser (List Char)
  | 0 => fail
  | fuel + 1 => do
    match ← peek? with
    | some c =>
      if c.isDigit then
        discard next
        skip
        return c :: (← digits fuel)
      else return []
    | none => return []

/-- A number of a repetition, below `2 ^ 32`, with white space around it. -/
def decimal : Parser Nat := do
  dropWhiteSpace
  let ds ← digits ((← get).rest.length + 1)
  dropWhiteSpace
  skip
  let n := ds.foldl (fun n c => n * 10 + (c.toNat - '0'.toNat)) 0
  if ds = [] ∨ UInt32.size ≤ n then fail else return n

def hexDigit? (c : Char) : Option Nat :=
  if '0' ≤ c ∧ c ≤ '9' then some (c.toNat - '0'.toNat)
  else if 'a' ≤ c ∧ c ≤ 'f' then some (c.toNat - 'a'.toNat + 10)
  else if 'A' ≤ c ∧ c ≤ 'F' then some (c.toNat - 'A'.toNat + 10)
  else none

/-- Exactly `count` hexadecimal digits. -/
def hexDigits (value : Nat) : Nat → Parser Nat
  | 0 => return value
  | count + 1 => do
    match hexDigit? (← next) with
    | some d => do
      skip
      hexDigits (value * 16 + d) count
    | none => fail

/-- Hexadecimal digits up to a closing brace. -/
def hexBraced (value : Nat) (isEmpty : Bool) : Nat → Parser Nat
  | 0 => fail
  | fuel + 1 => do
    skip
    let c ← next
    if c = '}' then
      if isEmpty then fail
      else
        skip
        return value
    else
      match hexDigit? c with
      | some d => hexBraced (value * 16 + d) false fuel
      | none => fail

def scalar (n : Nat) : Parser Char :=
  if n.isValidChar then return Char.ofNat n else fail

/-! ## Escapes -/

inductive Escape where
  | literal (l : Literal)
  | shorthand (kind : Shorthand) (negated : Bool)
  | property (known : Bool)
  | assertion

/-- A character by its code point, after the letter of the escape; the letter gives the number
of digits. -/
def hexEscape (digits : Nat) (isShort : Bool) : Parser Escape := do
  let c ← ahead
  if c = '{' then
    discard next
    let n ← hexBraced 0 true ((← get).rest.length + 1)
    return .literal ⟨← scalar n, false⟩
  else
    let c ← scalar (← hexDigits 0 digits)
    return .literal ⟨c, isShort⟩

def braced : Nat → Parser (List Char)
  | 0 => fail
  | fuel + 1 => do
    skip
    let c ← next
    if c = '}' then return [] else return c :: (← braced fuel)

def propertyEscape : Parser Escape := do
  let c ← ahead
  discard next
  if c = '{' then
    let name ← braced ((← get).rest.length + 1)
    return .property (Property.isKnown name)
  else if c = '\\' then fail
  else
    skip
    return .property (Property.isClass [c])

def wordBoundaries : List String := ["start", "end", "start-half", "end-half"]

def isBoundaryChar (c : Char) : Bool := c.isAlpha || c = '-'

def boundaryName : Nat → Parser (List Char)
  | 0 => fail
  | fuel + 1 => do
    match ← peek? with
    | some c =>
      if isBoundaryChar c then
        discard next
        skip
        return c :: (← boundaryName fuel)
      else return []
    | none => return []

/-- A word boundary, of which the kind may stand in braces. Braces that do not start with a
letter or a hyphen are a repetition, and are left. -/
def wordBoundary : Parser Unit := do
  let st ← get
  if ← take? ['{'] then
    let c ← ahead
    if isBoundaryChar c then
      let name ← boundaryName ((← get).rest.length + 1)
      expect '}'
      if !wordBoundaries.contains (String.ofList name) then fail
    else set st

/-- A character that stands for itself when it is escaped: anything in ASCII that is neither a
letter nor a digit, except the angles. -/
def isEscapable (c : Char) : Bool :=
  c.toNat < 128 && !c.isAlphanum && c ≠ '<' && c ≠ '>'

def escape : Parser Escape := do
  let c ← next
  match c with
  | 'x' => hexEscape 2 true
  | 'u' => hexEscape 4 false
  | 'U' => hexEscape 8 false
  | 'p' | 'P' => propertyEscape
  | 'd' => return .shorthand .digits false
  | 's' => return .shorthand .blanks false
  | 'w' => return .shorthand .words false
  | 'D' => return .shorthand .digits true
  | 'S' => return .shorthand .blanks true
  | 'W' => return .shorthand .words true
  | 'a' => return .literal ⟨'\x07', false⟩
  | 'f' => return .literal ⟨'\x0c', false⟩
  | 't' => return .literal ⟨'\t', false⟩
  | 'n' => return .literal ⟨'\n', false⟩
  | 'r' => return .literal ⟨'\r', false⟩
  | 'v' => return .literal ⟨'\x0b', false⟩
  | 'A' | 'z' | 'B' | '<' | '>' => return .assertion
  | 'b' => do
    wordBoundary
    return .assertion
  | c => if isEscapable c then return .literal ⟨c, false⟩ else fail

/-! ## Classes in brackets -/

def classNames : List String :=
  ["alnum", "alpha", "ascii", "blank", "cntrl", "digit", "graph", "lower", "print", "punct",
    "space", "upper", "word", "xdigit"]

/-- A class with a name in colons, if the next characters are one. -/
def namedClass? : Parser (Option ClassItem) := fun st =>
  match st.rest with
  | '[' :: ':' :: rest =>
    let (negated, rest) := match rest with
      | '^' :: rest => (true, rest)
      | rest => (false, rest)
    let name := rest.takeWhile (· ≠ ':')
    match rest.dropWhile (· ≠ ':') with
    | ':' :: ']' :: rest =>
      if classNames.contains (String.ofList name) then
        some (some (.named negated), { st with rest })
      else some (none, st)
    | _ => some (none, st)
  | _ => some (none, st)

/-- The character after the next one, blanks and the sign of a comment passed over. -/
def second? : Parser (Option Char) := fun st =>
  let tail := st.rest.drop 1
  if st.extended then
    let found := match tail.dropWhile Text.isBlank with
      | '#' :: rest => (rest.dropWhile Text.isBlank).head?
      | rest => rest.head?
    some (found.or tail.head?, st)
  else some (tail.head?, st)

/-- One end of a range, or a member on its own. -/
def classPrimitive : Parser Escape := do
  let c ← next
  if c = '\\' then escape else return .literal ⟨c, false⟩

def ClassItem.ofEscape : Escape → Parser ClassItem
  | .literal l => return .literal l
  | .shorthand kind negated => return .shorthand kind negated
  | .property known => return .property known
  | .assertion => fail

/-- A range or a single member. A hyphen before the closing bracket or before another hyphen is
no range. -/
def classRange : Parser ClassItem := do
  let low ← classPrimitive
  let c ← ahead
  let following ← second?
  if c ≠ '-' ∨ following = some ']' ∨ following = some '-' then ClassItem.ofEscape low
  else
    discard next
    discard ahead
    match low, ← classPrimitive with
    | .literal low, .literal high =>
      if low.char ≤ high.char then return .range low high else fail
    | _, _ => fail

def hyphens : Nat → Parser (List ClassItem)
  | 0 => fail
  | fuel + 1 => do
    if (← ahead) = '-' then
      discard next
      return .literal ⟨'-', false⟩ :: (← hyphens fuel)
    else return []

/-- The opening of a class: whether it is negated, and the hyphens or the closing bracket that
stand for themselves at its front. -/
def classOpening : Parser (Bool × List ClassItem) := do
  expect '['
  let negated := (← ahead) = '^'
  if negated then discard next
  let items ← hyphens ((← get).rest.length + 1)
  if items = [] ∧ (← ahead) = ']' then
    discard next
    discard ahead
    return (negated, [.literal ⟨']', false⟩])
  else return (negated, items)

/-- What was read of a class before an operator, joined with what was read since. -/
def joinSets (pending : Option (SetOperation × ClassSet)) (items : List ClassItem) : ClassSet :=
  match pending with
  | none => .items items.reverse
  | some (op, left) => .binary op left (.items items.reverse)

/-- The rest of a class; the members since the last operator come last first. -/
def classRest (pending : Option (SetOperation × ClassSet)) (items : List ClassItem) :
    Nat → Parser ClassSet
  | 0 => fail
  | fuel + 1 => do
    let operator (op : SetOperation) : Parser ClassSet :=
      classRest (some (op, joinSets pending items)) [] fuel
    let c ← ahead
    if c = '[' then
      match ← namedClass? with
      | some item => classRest pending (item :: items) fuel
      | none => do
        let (negated, front) ← classOpening
        let set ← classRest none front.reverse fuel
        classRest pending (.nested negated set :: items) fuel
    else if c = ']' then
      discard next
      return joinSets pending items
    else if ← take? ['&', '&'] then operator .intersection
    else if ← take? ['-', '-'] then operator .difference
    else if ← take? ['~', '~'] then operator .symmetricDifference
    else do
      let item ← classRange
      classRest pending (item :: items) fuel

def bracketed : Parser Pattern := do
  let (negated, front) ← classOpening
  let set ← classRest none front.reverse (2 * (← get).rest.length + 2)
  return .bracketed negated set

/-! ## Groups and repetitions -/

/-- Whether a character may stand in the name of a group. -/
def isNameChar (isFirst : Bool) (c : Char) : Bool :=
  c = '_' || Text.isAlphabetic c ||
    (!isFirst && (c = '.' || c = '[' || c = ']' || Text.isNumeric c))

/-- The name of a group, up to its closing angle. -/
def groupName : Parser Unit := fun st =>
  let name := st.rest.takeWhile (· ≠ '>')
  match name, st.rest.dropWhile (· ≠ '>') with
  | first :: others, _ :: rest =>
    if isNameChar true first && others.all (isNameChar false) && !st.names.contains name then
      some ((), { st with rest, names := name :: st.names })
    else none
  | _, _ => none

/-- Switches up to a closing parenthesis or a colon, which is taken: whether it was a colon, and
how many switches there were. The letters seen so far must not come again, and a hyphen, which
turns off all that follow it, must be followed by a letter. -/
def switchLetters (seen : List Char) (s : Switches) : Nat → Parser (Bool × Bool × Switches)
  | 0 => fail
  | fuel + 1 => do
    let c ← next
    if c = ':' ∨ c = ')' then
      if seen.head? = some '-' then fail else return (c = ':', seen = [], s)
    else if seen.contains c then fail
    else
      let on := !seen.contains '-'
      match c with
      | '-' | 'i' | 'm' | 's' | 'U' | 'R' => switchLetters (c :: seen) s fuel
      | 'u' => switchLetters (c :: seen) { s with unicode := some on } fuel
      | 'x' => switchLetters (c :: seen) { s with extended := some on } fuel
      | _ => fail

def lookArounds : List (List Char) :=
  [['?', '='], ['?', '!'], ['?', '<', '='], ['?', '<', '!']]

/-- The start of a group after its parenthesis: `inl` switches for what follows, or `inr` the
switches of the group. -/
def groupOpening : Parser (Switches ⊕ Switches) := do
  skip
  let st ← get
  if lookArounds.any (·.isPrefixOf st.rest) then fail
  if (← take? ['?', 'P', '<']) || (← take? ['?', '<']) then
    groupName
    return .inr {}
  else if ← take? ['?'] then
    let (opens, isEmpty, s) ← switchLetters [] {} ((← get).rest.length + 1)
    if opens then return .inr s
    else if isEmpty then fail
    else return .inl s
  else return .inr {}

/-- What is repeated: the part before, which must be there and not be a mere switch. -/
def repeatable : List Pattern → Parser (Pattern × List Pattern)
  | [] | .empty :: _ | .switches _ :: _ => fail
  | part :: parts => return (part, parts)

/-- The bounds of a counted repetition after its brace. -/
def bounds : Parser (Nat × Option Nat) := do
  discard ahead
  let least ← decimal
  let most ← (do
    if (← peek?) = some ',' then
      discard next
      if (← ahead) = '}' then return none else return some (← decimal)
    else return some least)
  expect '}'
  if most.any (· < least) then fail else return (least, most)

def isExtended : Parser Bool := return (← get).extended

def setExtended (on : Bool) : Parser Unit := modify fun st => { st with extended := on }

mutual

/-- The branches of an alternation, up to a closing parenthesis or the end. -/
def branches : Nat → Parser (List Pattern)
  | 0 => fail
  | fuel + 1 => do
    let branch ← parts fuel []
    if ← take? ['|'] then return branch :: (← branches fuel) else return [branch]

/-- One branch; what was read of it comes last first. -/
def parts : Nat → List Pattern → Parser Pattern
  | 0, _ => fail
  | fuel + 1, read => do
    skip
    match ← peek? with
    | none | some ')' | some '|' => return .ofParts read.reverse
    | some '(' => do
      discard next
      match ← groupOpening with
      | .inl s => do
        s.extended.forM setExtended
        parts fuel (.switches s :: read)
      | .inr s => do
        let outer ← isExtended
        s.extended.forM setExtended
        let body ← branches fuel
        expect ')'
        setExtended outer
        parts fuel (.group s (.ofBranches body) :: read)
    | some '[' => do
      let part ← bracketed
      parts fuel (part :: read)
    | some '?' => postfixed fuel read 0 (some 1)
    | some '*' => postfixed fuel read 0 none
    | some '+' => postfixed fuel read 1 none
    | some '{' => do
      let (part, read) ← repeatable read
      discard next
      let (least, most) ← bounds
      skip
      discard (take? ['?'])
      parts fuel (.repetition part least most :: read)
    | some '\\' => do
      discard next
      let part ← (return match ← escape with
        | .literal l => Pattern.literal l
        | .shorthand kind negated => .shorthand kind negated
        | .property known => .property known
        | .assertion => .assertion)
      parts fuel (part :: read)
    | some c => do
      discard next
      let part : Pattern := match c with
        | '.' => .dot
        | '^' | '$' => .assertion
        | c => .literal ⟨c, false⟩
      parts fuel (part :: read)

/-- A repetition that is written with one sign, and what follows it. -/
def postfixed (fuel : Nat) (read : List Pattern) (least : Nat) (most : Option Nat) :
    Parser Pattern := do
  match fuel with
  | 0 => fail
  | fuel + 1 => do
    let (part, read) ← repeatable read
    discard next
    discard (take? ['?'])
    parts fuel (.repetition part least most :: read)

end

end Parser

/-- The syntax tree of a pattern, `none` if it has none. -/
def parse? (pattern : String) : Option Pattern :=
  let cs := pattern.toList
  match (Parser.branches (4 * cs.length + 4)).run ⟨cs, false, []⟩ with
  | some (branches, st) => if st.rest = [] then some (.ofBranches branches) else none
  | none => none

end ComposeLint.Regex
