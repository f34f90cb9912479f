/-!
# Regular expressions

The syntax tree of a pattern, as far as it decides whether the pattern can be compiled: what is
nested in what, how often it is repeated, and what a class may contain.
-/

namespace ComposeLint.Regex

/-- A character of a pattern. Written as `\x` and two digits it may also be meant as a byte. -/
structure Literal where
  char : Char
  isByte : Bool := false

inductive SetOperation where
  | intersection
  | difference
  | symmetricDifference
  deriving DecidableEq

/-- The classes that have an escape of one letter. -/
inductive Shorthand where
  | digits
  | blanks
  | words

mutual

inductive ClassItem where
  | literal (l : Literal)
  | range (low high : Literal)
  | shorthand (kind : Shorthand) (negated : Bool)
  /-- A class with a name in colons. -/
  | named (negated : Bool)
  | property (known : Bool)
  | nested (negated : Bool) (set : ClassSet)

/-- The inside of a class in brackets. -/
inductive ClassSet where
  | items (items : List ClassItem)
  | binary (op : SetOperation) (left right : ClassSet)

end

/-- Switches that a pattern turns on or off, as far as they decide whether it compiles. -/
structure Switches where
  unicode : Option Bool := none
  /-- Whether blanks and comments are passed over. -/
  extended : Option Bool := none

inductive Pattern where
  | empty
  | literal (l : Literal)
  | dot
  | assertion
  | shorthand (kind : Shorthand) (negated : Bool)
  | property (known : Bool)
  | bracketed (negated : Bool) (set : ClassSet)
  | switches (s : Switches)
  | group (switches : Switches) (body : Pattern)
  | repetition (body : Pattern) (least : Nat) (most : Option Nat)
  | concat (parts : List Pattern)
  | alternation (branches : List Pattern)

/-- What a list of parts makes: nothing, the part itself, or a sequence. -/
def Pattern.ofParts : List Pattern → Pattern
  | [] => .empty
  | [part] => part
  | parts => .concat parts

def Pattern.ofBranches : List Pattern → Pattern
  | [] => .empty
  | [branch] => branch
  | branches => .alternation branches

end ComposeLint.Regex
