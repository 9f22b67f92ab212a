import Reshape.Number.Binary64

/-!
Decimal text of binary floating-point numbers. A number is written with the fewest digits that
are nearest to no other number, and of those the digits nearest to it; a decimal is read as the
nearest number, or with less care as its digits times a power of ten.
-/

namespace Reshape

/-- A decimal: its digits as a whole number, times ten to an exponent. -/
structure Decimal where
  /-- The digits. -/
  digits : Nat
  /-- The power of ten they are scaled by. -/
  exponent : Int
  deriving DecidableEq, Repr

namespace Decimal

/-- The number of decimal digits of a whole number. -/
def digitCount (n : Nat) : Nat :=
  (Nat.toDigits 10 n).length

/-- The number nearest to a decimal under a sign. Decimals beyond the range of all numbers are not
expanded. -/
def toBinary64 (negative : Bool) (decimal : Decimal) : Binary64 :=
  if decimal.digits = 0 then .zero negative
  else
    -- So far outside of the range the result is known, and the power of ten would be huge.
    let top := decimal.exponent + digitCount decimal.digits
    if 400 < top then .infinity negative
    else if top < -400 then .zero negative
    else if 0 ≤ decimal.exponent then
      .ofQuotient negative (decimal.digits * Nat.pow 10 decimal.exponent.toNat) 1
    else .ofQuotient negative decimal.digits (Nat.pow 10 (-decimal.exponent).toNat)

/-- The number nearest to a power of ten. -/
def power (k : Nat) : Binary64 :=
  .ofQuotient false (Nat.pow 10 k) 1

/-- The greatest power of ten that is a finite number. -/
def greatestPower : Nat := 308

/-- A number divided by a power of ten, which takes several steps if the power is no finite number.
There is nothing to divide any more once the number is zero. -/
def lowered (x : Binary64) : Nat → Nat → Binary64
  | 0, _ => x
  | steps + 1, k =>
    if k ≤ greatestPower then x.div (power k)
    else if x.isZero then x
    else lowered (x.div (power greatestPower)) steps (k - greatestPower)

/-- The digits of a decimal as a number, multiplied or divided by a power of ten, under a sign. The
digits, the power and each result are rounded, so that this need not be the number nearest to the
decimal. -/
def scaled (negative : Bool) (decimal : Decimal) : Binary64 :=
  let digits := Binary64.ofInt decimal.digits
  let size :=
    if decimal.exponent < 0 then
      let k := (-decimal.exponent).toNat
      lowered digits (k / greatestPower + 1) k
    else if decimal.exponent ≤ greatestPower then digits.mul (power decimal.exponent.toNat)
    else if digits.isZero then digits
    else .infinity false
  if negative then size.neg else size

/-- The reals that round to a number, as bounds over a common denominator, and the number itself.
The bounds belong to the interval if the significand is even. -/
structure Interval where
  /-- The lower bound. -/
  low : Nat
  /-- The number. -/
  middle : Nat
  /-- The upper bound. -/
  high : Nat
  /-- What the three are divided by. -/
  denominator : Nat
  /-- Whether the bounds round to the number as well. -/
  closed : Bool

/-- The interval of the reals that round to a positive significand times a power of two. Below a
power of two the numbers lie twice as close. -/
def interval (significand : Nat) (exponent : Int) : Interval :=
  -- In quarters of the last place both halfway points are whole.
  let below :=
    if significand = Binary64.leadingBit ∧ Binary64.lowestExponent < exponent then 1 else 2
  let scale := if 0 ≤ exponent then 1 <<< exponent.toNat else 1
  let denominator := if 0 ≤ exponent then 4 else 4 <<< (-exponent).toNat
  { low := (4 * significand - below) * scale
    middle := 4 * significand * scale
    high := (4 * significand + 2) * scale
    denominator := denominator
    closed := significand % 2 == 0 }

/-- Whether a fraction lies in an interval. -/
def Interval.holds (around : Interval) (numerator denominator : Nat) : Bool :=
  let low := around.low * denominator
  let high := around.high * denominator
  let point := numerator * around.denominator
  if around.closed then low ≤ point && point ≤ high else low < point && point < high

/-- The decimal on the grid of an exponent that lies in an interval and nearest to its number, if
the grid has one there; of two that are equally near, the one with the even last digit. -/
def Interval.onGrid? (around : Interval) (exponent : Int) : Option Decimal :=
  let up := if 0 ≤ exponent then 1 else Nat.pow 10 (-exponent).toNat
  let down := if 0 ≤ exponent then Nat.pow 10 exponent.toNat else 1
  -- If any decimal of the grid lies inside, one of the two next to the number does.
  let under := around.middle * up / (around.denominator * down)
  let remainder := around.middle * up % (around.denominator * down)
  let inside := fun digits => around.holds (digits * down) up
  match inside under, inside (under + 1) with
  | false, false => none
  | true, false => some ⟨under, exponent⟩
  | false, true => some ⟨under + 1, exponent⟩
  | true, true =>
    let twice := 2 * remainder
    let whole := around.denominator * down
    if twice < whole ∨ (twice = whole ∧ under % 2 = 0) then some ⟨under, exponent⟩
    else some ⟨under + 1, exponent⟩

/-- The exponent of the leading decimal digit of a positive fraction, or one less. -/
def leadingExponent (numerator denominator : Nat) : Int :=
  if denominator ≤ numerator then digitCount (numerator / denominator) - 1
  else -(digitCount (denominator / numerator))

/-- The first of finer and finer grids that has a decimal in an interval. -/
def Interval.coarsest (around : Interval) : Nat → Int → Option Decimal
  | 0, _ => none
  | grids + 1, exponent =>
    match around.onGrid? exponent with
    | some decimal =>
      if decimal.digits = 0 then around.coarsest grids (exponent - 1) else some decimal
    | none => around.coarsest grids (exponent - 1)

/-- A decimal without zeros at its end. -/
def withoutZeros (decimal : Decimal) : Nat → Decimal
  | 0 => decimal
  | steps + 1 =>
    if decimal.digits % 10 = 0 ∧ decimal.digits ≠ 0 then
      withoutZeros ⟨decimal.digits / 10, decimal.exponent + 1⟩ steps
    else decimal

/-- The shortest decimal that reads back as a positive significand times a power of two, nearest
to it among the shortest. -/
def shortest (significand : Nat) (exponent : Int) : Decimal :=
  let around := interval significand exponent
  let lead := leadingExponent around.middle around.denominator
  -- Seventeen digits always tell a number from its neighbours.
  match around.coarsest 20 (lead + 1) with
  | some decimal => withoutZeros decimal 20
  | none => ⟨0, 0⟩

/-- How a decimal is laid out as text. -/
structure Layout where
  /-- Decimals whose leading digit stands for ten to this exponent or more are in scientific
  form. -/
  scientificFrom : Int
  /-- Decimals whose leading digit stands for ten to less than this are in scientific form. -/
  scientificBelow : Int
  /-- What is written before the digits of an exponent that is not negative. -/
  positiveExponent : String

/-- A decimal as text: positional with at least one place after the point, or scientific. -/
def render (layout : Layout) (decimal : Decimal) : String :=
  let digits := Nat.toDigits 10 decimal.digits
  let count : Int := digits.length
  let lead := decimal.exponent + count - 1
  if layout.scientificFrom ≤ lead ∨ lead < layout.scientificBelow then
    let mantissa := match digits with
      | [only] => [only]
      | first :: rest => first :: '.' :: rest
      | [] => []
    let sign := if 0 ≤ lead then layout.positiveExponent else "-"
    String.ofList mantissa ++ "e" ++ sign ++ toString lead.natAbs
  else if 0 ≤ decimal.exponent then
    String.ofList digits ++ String.ofList (List.replicate decimal.exponent.toNat '0') ++ ".0"
  else if 0 ≤ lead then
    let whole := (lead + 1).toNat
    String.ofList (digits.take whole) ++ "." ++ String.ofList (digits.drop whole)
  else
    "0." ++ String.ofList (List.replicate (-lead - 1).toNat '0') ++ String.ofList digits

end Decimal

namespace Binary64

/-- A finite number as text in a layout; none for what no decimal denotes. -/
def render? (layout : Decimal.Layout) (x : Binary64) : Option String :=
  match x.reading with
  | .finite negative significand exponent =>
    let sign := if negative then "-" else ""
    if significand = 0 then some (sign ++ "0.0")
    else some (sign ++ (Decimal.shortest significand exponent).render layout)
  | _ => none

end Binary64

end Reshape
