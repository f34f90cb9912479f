import ComposeLint.Text.Unprintable

/-!
# Quoted text

A text inside a message stands in quotes. The quote, the backslash, tab, line feed, carriage
return and the null character have short escapes, and a character that would not show is spelled
by its code point, `\u` and the number in braces.
-/

namespace ComposeLint.Text

/-- A character as it is written between two characters `quote`. -/
def escape (quote c : Char) : List Char :=
  if c = '\x00' then ['\\', '0']
  else if c = '\t' then ['\\', 't']
  else if c = '\r' then ['\\', 'r']
  else if c = '\n' then ['\\', 'n']
  else if c = '\\' then ['\\', '\\']
  else if c = quote then ['\\', quote]
  else if isPrintable c then [c]
  else '\\' :: 'u' :: '{' :: Nat.toDigits 16 c.toNat ++ ['}']

def quoted (s : String) : String :=
  String.ofList ('"' :: s.toList.flatMap (escape '"') ++ ['"'])

def quotedChar (c : Char) : String :=
  String.ofList ('\'' :: escape '\'' c ++ ['\''])

end ComposeLint.Text
