import ComposeLint.Json.Basic

/-!
# Reading a value

A recursive descent over the characters of a text. Every reader takes what it needs from the
front and returns the rest; `value` and its two companions spend a unit of fuel per call, and a
text of `n` characters needs no more than `2 * n + 2`, which `Json.parse?` provides.

A number without fraction and exponent between `-2 ^ 63` and `2 ^ 64 - 1` is an integer, any
other a double. Of two members with one name the last is kept.
-/

namespace ComposeLint.Json

namespace Reader

def isBlank (c : Char) : Bool := c = ' ' || c = '\t' || c = '\n' || c = '\r'

def skipBlanks (s : List Char) : List Char := s.dropWhile isBlank

def hexDigit? (c : Char) : Option Nat :=
  if '0' ≤ c ∧ c ≤ '9' then some (c.toNat - '0'.toNat)
  else if 'a' ≤ c ∧ c ≤ 'f' then some (c.toNat - 'a'.toNat + 10)
  else if 'A' ≤ c ∧ c ≤ 'F' then some (c.toNat - 'A'.toNat + 10)
  else none

def unit? (a b c d : Char) : Option Nat := do
  return (((← hexDigit? a) * 16 + (← hexDigit? b)) * 16 + (← hexDigit? c)) * 16 + (← hexDigit? d)

def isHighSurrogate (n : Nat) : Bool := 0xd800 ≤ n && n < 0xdc00

def isLowSurrogate (n : Nat) : Bool := 0xdc00 ≤ n && n < 0xe000

/-- The rest of a string after its opening quote, `read` being what was read of it, backwards. -/
def string (read : List Char) : List Char → Option (String × List Char)
  | '"' :: rest => some (String.ofList read.reverse, rest)
  | '\\' :: 'u' :: a :: b :: c :: d :: rest =>
    match unit? a b c d with
    | none => none
    | some high =>
      if isHighSurrogate high then
        match rest with
        | '\\' :: 'u' :: e :: f :: g :: h :: rest =>
          match unit? e f g h with
          | some low =>
            if isLowSurrogate low then
              let c := Char.ofNat (0x10000 + (high - 0xd800) * 0x400 + (low - 0xdc00))
              string (c :: read) rest
            else none
          | none => none
        | _ => none
      else if isLowSurrogate high then none
      else string (Char.ofNat high :: read) rest
  | '\\' :: c :: rest =>
    match c with
    | '"' => string ('"' :: read) rest
    | '\\' => string ('\\' :: read) rest
    | '/' => string ('/' :: read) rest
    | 'b' => string ('\x08' :: read) rest
    | 'f' => string ('\x0c' :: read) rest
    | 'n' => string ('\n' :: read) rest
    | 'r' => string ('\r' :: read) rest
    | 't' => string ('\t' :: read) rest
    | _ => none
  | c :: rest => if c.toNat < 0x20 then none else string (c :: read) rest
  | [] => none

def digitsValue (digits : List Char) : Nat :=
  digits.foldl (fun n c => n * 10 + (c.toNat - '0'.toNat)) 0

def exponent (s : List Char) : Option (Int × List Char) :=
  let (negative, s) := match s with
    | '-' :: rest => (true, rest)
    | '+' :: rest => (false, rest)
    | s => (false, s)
  let digits := s.takeWhile Char.isDigit
  if digits = [] then none
  else
    let n : Int := digitsValue digits
    some (if negative then -n else n, s.dropWhile Char.isDigit)

/-- A number in its parts: the digits with the point left out, the exponent, and whether a
fraction or an exponent was written. -/
def unsigned (s : List Char) : Option ((List Char × Int × Bool) × List Char) := do
  let whole := s.takeWhile Char.isDigit
  let s := s.dropWhile Char.isDigit
  if whole = [] ∨ (whole.head? = some '0' ∧ whole ≠ ['0']) then none
  let (fraction, s, fractional) ← match s with
    | '.' :: rest =>
      let digits := rest.takeWhile Char.isDigit
      if digits = [] then none else some (digits, rest.dropWhile Char.isDigit, true)
    | s => some ([], s, false)
  let (power, s, scientific) ← match s with
    | 'e' :: rest | 'E' :: rest => do
      let (e, rest) ← exponent rest
      some (e, rest, true)
    | s => some (0, s, false)
  return ((whole ++ fraction, power - fraction.length, fractional || scientific), s)

/-- Whether a number without fraction and exponent is held as an integer: from `-2 ^ 63` to
`2 ^ 64 - 1`, the negative zero left out. -/
def isInteger (negative : Bool) (n : Nat) : Bool :=
  if negative then 0 < n && Int64.minValue.toInt ≤ -n else n < UInt64.size

def number (s : List Char) : Option (Json × List Char) := do
  let (negative, s) := match s with
    | '-' :: rest => (true, rest)
    | s => (false, s)
  let ((digits, power, isReal), s) ← unsigned s
  let n := digitsValue digits
  if !isReal && isInteger negative n then return (.int (if negative then -n else n), s)
  else
    let d ← Double.ofDecimal? negative n power
    return (.double d, s)

mutual

def value : Nat → List Char → Option (Json × List Char)
  | 0, _ => none
  | fuel + 1, s =>
    match skipBlanks s with
    | 'n' :: 'u' :: 'l' :: 'l' :: rest => some (.null, rest)
    | 't' :: 'r' :: 'u' :: 'e' :: rest => some (.bool true, rest)
    | 'f' :: 'a' :: 'l' :: 's' :: 'e' :: rest => some (.bool false, rest)
    | '"' :: rest => do
      let (text, rest) ← string [] rest
      return (.str text, rest)
    | '[' :: rest =>
      match skipBlanks rest with
      | ']' :: rest => some (.arr [], rest)
      | rest => do
        let (items, rest) ← items fuel rest
        return (.arr items, rest)
    | '{' :: rest =>
      match skipBlanks rest with
      | '}' :: rest => some (.obj [], rest)
      | rest => do
        let (members, rest) ← members fuel rest
        return (.obj (Keyed.ofList members), rest)
    | s => number s

def items : Nat → List Char → Option (List Json × List Char)
  | 0, _ => none
  | fuel + 1, s => do
    let (item, rest) ← value fuel s
    match skipBlanks rest with
    | ']' :: rest => return ([item], rest)
    | ',' :: rest => do
      let (others, rest) ← items fuel rest
      return (item :: others, rest)
    | _ => none

def members : Nat → List Char → Option (List (String × Json) × List Char)
  | 0, _ => none
  | fuel + 1, s =>
    match skipBlanks s with
    | '"' :: rest => do
      let (name, rest) ← string [] rest
      match skipBlanks rest with
      | ':' :: rest => do
        let (value, rest) ← value fuel rest
        match skipBlanks rest with
        | '}' :: rest => return ([(name, value)], rest)
        | ',' :: rest => do
          let (others, rest) ← members fuel rest
          return ((name, value) :: others, rest)
        | _ => none
      | _ => none
    | _ => none

end

end Reader

/-- The value that a text spells, `none` if it spells none or has anything after it. -/
def parse? (text : String) : Option Json :=
  let s := text.toList
  match Reader.value (2 * s.length + 2) s with
  | some (v, rest) => if Reader.skipBlanks rest = [] then some v else none
  | none => none

end ComposeLint.Json
