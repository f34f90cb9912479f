import ComposeLint.Number.Double

/-!
# The shortest decimal of a double

Every finite double has decimals that read back as it, and some of them have the fewest digits.
`Double.shortest` finds the one of these that lies nearest: for one digit, two digits and so on
it tries the two neighbours of the number on that decimal grid, and at seventeen digits a
neighbour always lies in the interval of reals that round to the number.

`Double.text` writes these digits. A point is always written, with an exponent for numbers from
ten to the sixteenth up and below ten to the minus fifth.
-/

namespace ComposeLint

/-- The digits `d₁ d₂ … dₙ` and a point: the value is `0.d₁d₂…dₙ * 10 ^ point`. -/
structure Decimal where
  digits : List Char
  point : Int

/-- The digits with a point in their midst or, for great and small numbers, after the first
digit and with an exponent. -/
def Decimal.chars (d : Decimal) : List Char :=
  let count : Int := d.digits.length
  if d.point ≤ -5 ∨ 17 ≤ d.point then
    let exponent := d.point - 1
    let sign := if exponent < 0 then '-' else '+'
    let mantissa := match d.digits with
      | first :: second :: rest => first :: '.' :: second :: rest
      | digits => digits
    mantissa ++ 'e' :: sign :: Nat.toDigits 10 exponent.natAbs
  else if d.point ≤ 0 then
    '0' :: '.' :: (List.replicate (-d.point).toNat '0' ++ d.digits)
  else if count ≤ d.point then
    d.digits ++ List.replicate (d.point - count).toNat '0' ++ ['.', '0']
  else
    d.digits.take d.point.toNat ++ '.' :: d.digits.drop d.point.toNat

namespace Double

structure Ratio where
  num : Nat
  den : Nat

namespace Ratio

def ofScaled (m : Nat) (exponent : Int) : Ratio :=
  let (n, d) := scaleByPowerOfTwo m 1 exponent
  ⟨n, d⟩

def lt (a b : Ratio) : Bool := a.num * b.den < b.num * a.den

def le (a b : Ratio) : Bool := a.num * b.den ≤ b.num * a.den

def dist (a b : Ratio) : Ratio :=
  ⟨(a.num * b.den - b.num * a.den) + (b.num * a.den - a.num * b.den), a.den * b.den⟩

def mulPowerOfTen (a : Ratio) (exponent : Int) : Ratio :=
  if 0 ≤ exponent then ⟨a.num * Nat.pow 10 exponent.toNat, a.den⟩
  else ⟨a.num, a.den * Nat.pow 10 (-exponent).toNat⟩

def floor (a : Ratio) : Nat := a.num / a.den

end Ratio

/-- The reals that round to a double. The ends belong to it if its significand is even. -/
structure Interval where
  low : Ratio
  value : Ratio
  high : Ratio
  closed : Bool

def interval (d : Double) : Interval :=
  let m := d.significand
  let e := d.exponent - 2
  -- Below a power of two the next double is only half as far away.
  let below := if m = leadingBit ∧ 1 < d.biased then 1 else 2
  { low := .ofScaled (4 * m - below) e
    value := .ofScaled (4 * m) e
    high := .ofScaled (4 * m + 2) e
    closed := m % 2 = 0 }

def Interval.contains (i : Interval) (x : Ratio) : Bool :=
  if i.closed then i.low.le x && x.le i.high else i.low.lt x && x.lt i.high

/-- The place of the first digit: the value lies in `10 ^ (point - 1) ≤ value < 10 ^ point`. -/
def Interval.point (i : Interval) : Int :=
  ((Nat.toDigits 10 (i.value.mulPowerOfTen 400).floor).length : Int) - 400

/-- The nearer neighbour of the value on the grid of `count` digits, if it lies in the
interval. -/
def Interval.onGrid? (i : Interval) (count : Nat) : Option Nat :=
  let shift : Int := count - i.point
  let below := (i.value.mulPowerOfTen shift).floor
  let ratio (n : Nat) : Ratio := Ratio.mulPowerOfTen ⟨n, 1⟩ (-shift)
  let above := below + 1
  let downward := i.contains (ratio below)
  let upward := i.contains (ratio above)
  if downward && upward then
    let down := (ratio below).dist i.value
    let up := (ratio above).dist i.value
    some (if down.lt up then below else if up.lt down then above else below + below % 2)
  else if downward then some below
  else if upward then some above
  else none

def Interval.search (i : Interval) : Nat → Nat → Option (Nat × Nat)
  | 0, _ => none
  | tries + 1, count =>
    match i.onGrid? count with
    | some n => some (n, count)
    | none => i.search tries (count + 1)

/-- The shortest decimal of a positive finite double, without trailing zeros. -/
def shortest (d : Double) : Decimal :=
  let i := d.interval
  match i.search 17 1 with
  | some (n, count) =>
    let digits := Nat.toDigits 10 n
    -- A neighbour above may have one digit more.
    { digits := (digits.reverse.dropWhile (· = '0')).reverse
      point := i.point + (digits.length - count : Int) }
  | none => { digits := ['0'], point := 0 }

def chars (d : Double) : List Char :=
  (if d.isNegative then ['-'] else []) ++
    if d.significand = 0 then ['0', '.', '0'] else d.shortest.chars

end Double

end ComposeLint
