/-!
# Binary floating point

A number of a document that is not an integer is an IEEE 754 binary64 number. It is held by its
bits, so that equality is decidable and nothing depends on the machine's arithmetic: reading a
decimal is one exact division of natural numbers, rounded once, half to even.
-/

namespace ComposeLint

/-- An IEEE 754 binary64 number, by its bits: sign, eleven bits of exponent, 52 of fraction. -/
structure Double where
  bits : UInt64
  deriving DecidableEq, Inhabited

namespace Double

def one : Double := ⟨0x3ff0000000000000⟩

/-- The bit before the fraction, which numbers that are not tiny have without its being held. -/
def leadingBit : Nat := 1 <<< 52

def signBit : Nat := 1 <<< 63

def isNegative (d : Double) : Bool := signBit ≤ d.bits.toNat

/-- The eleven bits of the exponent. -/
def biased (d : Double) : Nat := d.bits.toNat / leadingBit % 2048

/-- The 52 bits of the fraction. -/
def fraction (d : Double) : Nat := d.bits.toNat % leadingBit

/-- The significand of a finite number: its absolute value is `significand * 2 ^ exponent`. -/
def significand (d : Double) : Nat :=
  if d.biased = 0 then d.fraction else leadingBit + d.fraction

def exponent (d : Double) : Int := (max d.biased 1 : Nat) - 1075

/-- Quotient of two natural numbers to the nearest, a tie to the even neighbour. -/
def divNearest (num den : Nat) : Nat :=
  let q := num / den
  let r := num % den
  if 2 * r < den then q else if den < 2 * r then q + 1 else q + q % 2

/-- The fraction `num / den * 2 ^ shift`, as numerator and denominator. -/
def scaleByPowerOfTwo (num den : Nat) (shift : Int) : Nat × Nat :=
  if 0 ≤ shift then (num <<< shift.toNat, den) else (num, den <<< (-shift).toNat)

/-- The number with that sign whose other 63 bits are these. -/
def ofMagnitude (negative : Bool) (magnitude : Nat) : Double :=
  ⟨UInt64.ofNat (if negative then signBit + magnitude else magnitude)⟩

/-- The double nearest to `num / den`, `none` beyond the greatest finite one. -/
def nearest? (negative : Bool) (num den : Nat) : Option Double :=
  if num = 0 then some (ofMagnitude negative 0)
  else
    let size : Int := (Nat.log2 num : Int) - Nat.log2 den
    -- The binade below or at the value: the significand gets 53 bits, less for tiny numbers.
    let guess : Int := max (size - 53) (-1074)
    let (n, d) := scaleByPowerOfTwo num den (-guess)
    let exponent := if n < 2 * leadingBit * d then guess else guess + 1
    let (n, d) := scaleByPowerOfTwo num den (-exponent)
    let significand := divNearest n d
    let (significand, exponent) :=
      if significand = 2 * leadingBit then (leadingBit, exponent + 1) else (significand, exponent)
    let magnitude :=
      if significand < leadingBit then significand
      else (exponent + 1075).toNat * leadingBit + (significand - leadingBit)
    if 2047 * leadingBit ≤ magnitude then none else some (ofMagnitude negative magnitude)

/-- The double nearest to `digits * 10 ^ exponent`. Far outside the range the answer is known
without the power of ten. -/
def ofDecimal? (negative : Bool) (digits : Nat) (exponent : Int) : Option Double :=
  let magnitude : Int := exponent + (Nat.toDigits 10 digits).length
  if digits = 0 ∨ magnitude < -330 then nearest? negative 0 1
  else if 310 < magnitude then none
  else if 0 ≤ exponent then nearest? negative (digits * Nat.pow 10 exponent.toNat) 1
  else nearest? negative digits (Nat.pow 10 (-exponent).toNat)

end Double

end ComposeLint
