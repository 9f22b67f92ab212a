/-!
Binary floating point with 64 bits, read as exact fractions. A number is decoded into a sign, a
significand and a power of two; each operation is the exact result rounded to the nearest number,
and to the even significand of two that are equally near.
-/

namespace Reshape

/-- A binary floating-point number: a sign bit, eleven bits of exponent and 52 of fraction. -/
structure Binary64 where
  /-- The 64 bits, the sign highest. -/
  bits : UInt64
  deriving DecidableEq, Repr

namespace Binary64

/-- What the bits of a number denote. -/
inductive Reading where
  /-- Not a number. -/
  | nan
  /-- An infinity of either sign. -/
  | infinite (negative : Bool)
  /-- The significand times two to the exponent, under a sign. -/
  | finite (negative : Bool) (significand : Nat) (exponent : Int)
  deriving DecidableEq, Repr

/-- The lowest exponent of a significand. -/
def lowestExponent : Int := -1074

/-- The highest bit of a number, which is its sign. -/
def signBit : Nat := 1 <<< 63

/-- The bit of a significand before those that the fraction holds. -/
def leadingBit : Nat := 1 <<< 52

/-- The magnitude bits of infinity: those of every finite number are below. -/
def infinityBits : Nat := 0x7FF0000000000000

/-- The exact reading of a number. -/
def reading (x : Binary64) : Reading :=
  let bits := x.bits.toNat
  let negative := decide (signBit ≤ bits)
  let magnitude := bits % signBit
  if infinityBits < magnitude then .nan
  else if magnitude = infinityBits then .infinite negative
  else
    let field : Nat := magnitude / leadingBit
    let fraction := magnitude % leadingBit
    if field = 0 then .finite negative fraction lowestExponent
    else .finite negative (leadingBit + fraction) ((field : Int) + lowestExponent - 1)

/-- The number with given magnitude bits under a sign. -/
def ofMagnitude (negative : Bool) (magnitude : Nat) : Binary64 :=
  ⟨((if negative then signBit else 0) + magnitude).toUInt64⟩

/-- The one pattern used for what is not a number. -/
def nan : Binary64 := ofMagnitude false 0x7FF8000000000000

/-- An infinity of either sign. -/
def infinity (negative : Bool) : Binary64 := ofMagnitude negative infinityBits

/-- A zero of either sign. -/
def zero (negative : Bool) : Binary64 := ofMagnitude negative 0

/-- The significand of a quotient on the grid of an exponent, rounded to nearest, ties to even. -/
def roundedQuotient (numerator denominator : Nat) : Nat :=
  let quotient := numerator / denominator
  let twice := 2 * (numerator % denominator)
  if twice < denominator then quotient
  else if denominator < twice then quotient + 1
  else quotient + quotient % 2

/-- A quotient times a power of two, as a quotient. -/
def scaled (numerator denominator : Nat) (power : Int) : Nat × Nat :=
  if 0 ≤ power then (numerator <<< power.toNat, denominator)
  else (numerator, denominator <<< (-power).toNat)

/-- The exponent at which the significand of a quotient has 53 bits, or the lowest exponent if that
is higher. -/
def gridExponent (numerator denominator : Nat) : Int :=
  -- The logarithms leave the length of the quotient open by one bit.
  let guess := max ((numerator.log2 : Int) - denominator.log2 - 53) lowestExponent
  let (scaledNumerator, scaledDenominator) := scaled numerator denominator (-guess)
  if 2 * leadingBit ≤ scaledNumerator / scaledDenominator then guess + 1 else guess

/-- The number nearest to a quotient under a sign; a quotient beyond all numbers is infinite. -/
def ofQuotient (negative : Bool) (numerator denominator : Nat) : Binary64 :=
  if numerator = 0 then zero negative else
  let exponent := gridExponent numerator denominator
  let (scaledNumerator, scaledDenominator) := scaled numerator denominator (-exponent)
  let significand := roundedQuotient scaledNumerator scaledDenominator
  -- Rounding up to a power of two carries into the exponent, as it should.
  ofMagnitude negative (min infinityBits
    ((exponent - lowestExponent).toNat * leadingBit + significand))

/-- The number nearest to a quotient times a power of two. -/
def ofScaled (negative : Bool) (numerator denominator : Nat) (power : Int) : Binary64 :=
  let (numerator, denominator) := scaled numerator denominator power
  ofQuotient negative numerator denominator

/-- The number nearest to an integer. -/
def ofInt (n : Int) : Binary64 :=
  ofQuotient (decide (n < 0)) n.natAbs 1

/-- The integer that a significand times a power of two is on the grid of a lower exponent. -/
def onGrid (negative : Bool) (significand : Nat) (exponent grid : Int) : Int :=
  let units : Int := (significand <<< (exponent - grid).toNat : Nat)
  if negative then -units else units

/-- The number with the sign turned. -/
def neg (x : Binary64) : Binary64 :=
  match x.reading with
  | .nan => nan
  | .infinite negative => infinity !negative
  | .finite .. =>
    let bits := x.bits.toNat
    ⟨(if signBit ≤ bits then bits - signBit else bits + signBit).toUInt64⟩

/-- The number without its sign. -/
def abs (x : Binary64) : Binary64 :=
  match x.reading with
  | .nan => nan
  | _ => ofMagnitude false (x.bits.toNat % signBit)

/-- The sum, rounded. A sum of exactly zero is negative only if both terms are. -/
def add (x y : Binary64) : Binary64 :=
  match x.reading, y.reading with
  | .nan, _ | _, .nan => nan
  | .infinite a, .infinite b => if a = b then infinity a else nan
  | .infinite a, .finite .. => infinity a
  | .finite .., .infinite b => infinity b
  | .finite a m e, .finite b n f =>
    -- On the finer of the two grids both are whole.
    let grid := min e f
    let sum := onGrid a m e grid + onGrid b n f grid
    if sum = 0 then zero (a && b)
    else ofScaled (decide (sum < 0)) sum.natAbs 1 grid

/-- The difference, rounded. -/
def sub (x y : Binary64) : Binary64 :=
  add x (neg y)

/-- The product, rounded. -/
def mul (x y : Binary64) : Binary64 :=
  match x.reading, y.reading with
  | .nan, _ | _, .nan => nan
  | .infinite a, .infinite b => infinity (a != b)
  | .infinite a, .finite b n _ => if n = 0 then nan else infinity (a != b)
  | .finite a m _, .infinite b => if m = 0 then nan else infinity (a != b)
  | .finite a m e, .finite b n f => ofScaled (a != b) (m * n) 1 (e + f)

/-- The quotient, rounded. -/
def div (x y : Binary64) : Binary64 :=
  match x.reading, y.reading with
  | .nan, _ | _, .nan => nan
  | .infinite _, .infinite _ => nan
  | .infinite a, .finite b _ _ => infinity (a != b)
  | .finite a _ _, .infinite b => zero (a != b)
  | .finite a m e, .finite b n f =>
    if n = 0 then (if m = 0 then nan else infinity (a != b))
    else ofScaled (a != b) m n (e - f)

/-- The order of two numbers, none if either is not a number. Zeros of both signs are equal. -/
def compare (x y : Binary64) : Option Ordering :=
  match x.reading, y.reading with
  | .nan, _ | _, .nan => none
  | .infinite a, .infinite b =>
    some (if a = b then .eq else if a then .lt else .gt)
  | .infinite a, .finite .. => some (if a then .lt else .gt)
  | .finite .., .infinite b => some (if b then .gt else .lt)
  | .finite a m e, .finite b n f =>
    let grid := min e f
    some (Ord.compare (onGrid a m e grid) (onGrid b n f grid))

/-- Whether the number is a zero of either sign. -/
def isZero (x : Binary64) : Bool :=
  x.bits.toNat % signBit == 0

/-- Whether the number is finite. -/
def isFinite (x : Binary64) : Bool :=
  decide (x.bits.toNat % signBit < infinityBits)

/-- The integer that the number is, if it is one. -/
def toInt? (x : Binary64) : Option Int :=
  match x.reading with
  | .finite negative significand exponent =>
    if 0 ≤ exponent then some (onGrid negative significand exponent 0)
    else
      let unit := 1 <<< (-exponent).toNat
      if significand % unit = 0 then
        let quotient : Int := (significand / unit : Nat)
        some (if negative then -quotient else quotient)
      else none
  | _ => none

/-- How a fraction is brought to an integer. -/
inductive Rounding where
  /-- To the greatest integer not above. -/
  | down
  /-- To the least integer not below. -/
  | up
  /-- To the nearest integer, a half away from zero. -/
  | nearest
  deriving DecidableEq, Repr

/-- The integer that a rounding gives for a finite number. -/
def roundToInt? (rounding : Rounding) (x : Binary64) : Option Int :=
  match x.reading with
  | .finite negative significand exponent =>
    let grid := min exponent 0
    let units := onGrid negative significand exponent grid
    let unit : Int := (1 <<< (-grid).toNat : Nat)
    some (match rounding with
      | .down => Int.fdiv units unit
      | .up => -Int.fdiv (-units) unit
      | .nearest =>
        -- The magnitude plus a half, rounded down.
        let away := Int.fdiv (2 * units.natAbs + unit) (2 * unit)
        if negative then -away else away)
  | _ => none

end Binary64

end Reshape
