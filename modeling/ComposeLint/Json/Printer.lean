import ComposeLint.Json.Basic
import ComposeLint.Number.Shortest

/-!
# Compact text of a value

Values are written without blanks. In a string only the quote, the backslash and the
characters below U+0020 are escaped; everything else stands as it is.
-/

namespace ComposeLint.Json

/-- A character of a string as it is written between the quotes. -/
def escape (c : Char) : List Char :=
  if c = '"' then ['\\', '"']
  else if c = '\\' then ['\\', '\\']
  else if c = '\x08' then ['\\', 'b']
  else if c = '\t' then ['\\', 't']
  else if c = '\n' then ['\\', 'n']
  else if c = '\x0c' then ['\\', 'f']
  else if c = '\r' then ['\\', 'r']
  else if c.toNat < 0x20 then
    ['\\', 'u', '0', '0', Nat.digitChar (c.toNat / 16), Nat.digitChar (c.toNat % 16)]
  else [c]

def stringChars (s : String) : List Char :=
  '"' :: s.toList.flatMap escape ++ ['"']

def intChars (n : Int) : List Char :=
  (if n < 0 then ['-'] else []) ++ Nat.toDigits 10 n.natAbs

mutual

def chars : Json → List Char
  | null => ['n', 'u', 'l', 'l']
  | bool true => ['t', 'r', 'u', 'e']
  | bool false => ['f', 'a', 'l', 's', 'e']
  | int n => intChars n
  | double d => d.chars
  | str s => stringChars s
  | arr items => '[' :: itemsChars items ++ [']']
  | obj members => '{' :: membersChars members ++ ['}']

def itemsChars : List Json → List Char
  | [] => []
  | [item] => chars item
  | item :: rest => chars item ++ ',' :: itemsChars rest

def membersChars : List (String × Json) → List Char
  | [] => []
  | [(name, value)] => stringChars name ++ ':' :: chars value
  | (name, value) :: rest => stringChars name ++ ':' :: chars value ++ ',' :: membersChars rest

end

def render (v : Json) : String := String.ofList v.chars

end ComposeLint.Json
