import ComposeLint.Regex.Parser

/-!
# Patterns that compile

A pattern compiles if it can be read, is not nested too deeply, names only properties that exist,
never matches a part of a character, and does not make a program that is too large.

Outside Unicode mode a class is a set of bytes. Since no part of a character may be matched, every
class in brackets must then stay within ASCII, with its nested classes, and the dot is refused.
Which bytes above ASCII a class holds is all that matters for this.
-/

namespace ComposeLint.Regex

mutual

def ClassItem.depth : ClassItem → Nat
  | .nested _ set => set.depth + 1
  | _ => 0

def ClassSet.depth : ClassSet → Nat
  | .items [] => 0
  | .items [item] => item.depth
  | .items items => itemsDepth items + 1
  | .binary _ left right => max left.depth right.depth + 1

/-- The depth of the deepest of several members. -/
def itemsDepth : List ClassItem → Nat
  | [] => 0
  | item :: rest => max item.depth (itemsDepth rest)

end

mutual

def Pattern.depth : Pattern → Nat
  | .bracketed _ set => set.depth + 1
  | .group _ body => body.depth + 1
  | .repetition body _ _ => body.depth + 1
  | .concat parts => partsDepth parts + 1
  | .alternation branches => partsDepth branches + 1
  | _ => 0

def partsDepth : List Pattern → Nat
  | [] => 0
  | part :: rest => max part.depth (partsDepth rest)

end

def depthLimit : Nat := 250

/-! ## Properties in Unicode mode -/

mutual

/-- Whether all properties of a class exist. -/
def ClassItem.isKnown : ClassItem → Bool
  | .property known => known
  | .nested _ set => set.isKnown
  | _ => true

def ClassSet.isKnown : ClassSet → Bool
  | .items items => itemsKnown items
  | .binary _ left right => left.isKnown && right.isKnown

def itemsKnown : List ClassItem → Bool
  | [] => true
  | item :: rest => item.isKnown && itemsKnown rest

end

/-! ## Bytes outside Unicode mode -/

/-- The bytes above ASCII that a class holds. -/
abbrev HighBytes := Nat → Bool

def HighBytes.isEmpty (bytes : HighBytes) : Bool :=
  (List.range 128).all fun n => !bytes (128 + n)

/-- The byte that a literal stands for in a class. -/
def Literal.byte? (l : Literal) : Option Nat :=
  if l.isByte || l.char.toNat < 128 then some l.char.toNat else none

/-- The bytes of a class in brackets, `none` if it holds one above ASCII. -/
def HighBytes.closed? (negated : Bool) (bytes : HighBytes) : Option HighBytes :=
  let bytes : HighBytes := if negated then (!bytes ·) else bytes
  if bytes.isEmpty then some bytes else none

def SetOperation.apply (op : SetOperation) (a b : HighBytes) : HighBytes := fun n =>
  match op with
  | .intersection => a n && b n
  | .difference => a n && !b n
  | .symmetricDifference => a n != b n

mutual

/-- The bytes of one member, `none` if it cannot stand in a class of bytes. -/
def ClassItem.bytes? : ClassItem → Option HighBytes
  | .literal l => do
    let b ← l.byte?
    return (· = b)
  | .range low high => do
    let a ← low.byte?
    let b ← high.byte?
    return fun n => a ≤ n && n ≤ b
  | .shorthand _ negated | .named negated => if negated then none else some fun _ => false
  | .property _ => none
  | .nested negated set => set.bytes?.bind (HighBytes.closed? negated)

def ClassSet.bytes? : ClassSet → Option HighBytes
  | .items items => itemsBytes? items
  | .binary op left right => return op.apply (← left.bytes?) (← right.bytes?)

def itemsBytes? : List ClassItem → Option HighBytes
  | [] => some fun _ => false
  | item :: rest => do
    let a ← item.bytes?
    let b ← itemsBytes? rest
    return fun n => a n || b n

end

/-- Whether a class in brackets may stand in a pattern. -/
def ClassSet.isAllowed (unicode negated : Bool) (set : ClassSet) : Bool :=
  if unicode then set.isKnown else (set.bytes?.bind (HighBytes.closed? negated)).isSome

mutual

/-- Whether a pattern keeps to whole characters; the answer is the mode that holds after it. -/
def Pattern.mode? (unicode : Bool) : Pattern → Option Bool
  | .empty | .assertion => some unicode
  | .literal l => if unicode || !l.isByte || l.char.toNat < 128 then some unicode else none
  | .dot => if unicode then some unicode else none
  | .shorthand _ negated => if unicode || !negated then some unicode else none
  | .property known => if unicode && known then some unicode else none
  | .bracketed negated set => if set.isAllowed unicode negated then some unicode else none
  | .switches s => some (s.unicode.getD unicode)
  | .group s body => (body.mode? (s.unicode.getD unicode)).map fun _ => unicode
  | .repetition body _ _ => body.mode? unicode
  | .concat parts => partsMode? unicode parts
  | .alternation branches => partsMode? unicode branches

def partsMode? (unicode : Bool) : List Pattern → Option Bool
  | [] => some unicode
  | part :: rest => (part.mode? unicode).bind (partsMode? · rest)

end

/-! ## Size of the program

A program has a state of 32 bytes for each byte of a character, and a class of characters one for
each way to begin the encoding of one of its characters. Repetitions make copies. The sizes of the
large classes are those of the program that reads a text backwards, which is the larger one. -/

def stateSize : Nat := 32

/-- The size of a choice between two states. -/
def choiceSize : Nat := stateSize + 8

def Literal.size (l : Literal) : Nat := l.char.utf8Size * stateSize

/-- The size of a class of characters of all scripts. -/
def Shorthand.size (negated : Bool) : Shorthand → Nat
  | digits => if negated then 12000 else 5000
  | blanks => if negated then 2000 else 700
  | words => if negated then 46000 else 50000

/-- The size of a class that a property names. -/
def propertySize : Nat := 40000

/-- The size of the class of all characters but a few. -/
def dotSize : Nat := 1000

mutual

def ClassItem.size : ClassItem → Nat
  | .literal l => l.size
  | .range low high => low.size + high.size
  | .shorthand kind negated => kind.size negated
  | .named _ => stateSize
  | .property _ => propertySize
  | .nested negated set => set.size + if negated then dotSize else 0

def ClassSet.size : ClassSet → Nat
  | .items items => itemsSize items
  | .binary _ left right => max left.size right.size

def itemsSize : List ClassItem → Nat
  | [] => 0
  | item :: rest => item.size + itemsSize rest

end

mutual

def Pattern.size : Pattern → Nat
  | .empty | .assertion => stateSize
  | .switches _ => 0
  | .literal l => l.size
  | .dot => dotSize
  | .shorthand kind negated => kind.size negated
  | .property _ => propertySize
  | .bracketed negated set => set.size + if negated then dotSize else stateSize
  | .group _ body => body.size + 2 * stateSize
  | .repetition body least none => body.size * max least 1 + choiceSize
  | .repetition body least (some most) =>
    body.size * most + choiceSize * (most - least) + stateSize
  | .concat parts => partsSize parts
  | .alternation branches => partsSize branches + 2 * stateSize

def partsSize : List Pattern → Nat
  | [] => 0
  | part :: rest => part.size + partsSize rest

end

/-- The greatest size that is accepted: ten mebibytes. -/
def sizeLimit : Nat := 10 * 1024 * 1024

def isValid (pattern : String) : Bool :=
  match parse? pattern with
  | none => false
  | some regex => regex.depth ≤ depthLimit && (regex.mode? true).isSome && regex.size ≤ sizeLimit

end ComposeLint.Regex
