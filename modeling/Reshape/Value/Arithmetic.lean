import Reshape.Value.Order

/-!
Arithmetic on number values: exact on integers as long as the result is a signed integer of 64
bits, and on floating-point numbers otherwise.
-/

namespace Reshape.Value

/-- An operation on integers together with the one on floating-point numbers that stands in. -/
structure Operation where
  /-- The exact result. -/
  exact : Int → Int → Int
  /-- The rounded result. -/
  rounded : Binary64 → Binary64 → Binary64

/-- Addition. -/
def addition : Operation := ⟨(· + ·), .add⟩

/-- Subtraction. -/
def subtraction : Operation := ⟨(· - ·), .sub⟩

/-- Multiplication. -/
def multiplication : Operation := ⟨(· * ·), .mul⟩

/-- The exact result of an operation on two integers, if they and it are signed integers of 64
bits. -/
def combineIntegers (operation : Operation) (a b : Value) : Option Int64 :=
  match a, b with
  | .float _, _ | _, .float _ => none
  | a, b => do
    let a ← a.toInt64?
    let b ← b.toInt64?
    int64? (operation.exact a.toInt b.toInt)

/-- The result of an operation on two numbers; none if either value is no number. -/
def combine (operation : Operation) (a b : Value) : Option Value :=
  match combineIntegers operation a b with
  | some result => some (.int result)
  | none => do
    let a ← a.toFloat?
    let b ← b.toFloat?
    return .float (operation.rounded a b)

/-- The number rounded to an integer; integers are left as they are, and so is a result out of
range. -/
def round (rounding : Binary64.Rounding) : Value → Option Value
  | .int value => some (.int value)
  | .uint value => some (.uint value)
  | .float value =>
    match (value.roundToInt? rounding).bind int64? with
    | some result => some (.int result)
    | none => some (.float value)
  | _ => none

/-- The number with its sign turned, in the narrowest kind that holds the result. -/
def negate : Value → Option Value
  | .int value =>
    match int64? (-value.toInt) with
    | some result => some (.int result)
    | none => some (.float (Binary64.ofInt value.toInt).neg)
  | .uint value =>
    match int64? (-(value.toNat : Int)) with
    | some result => some (.int result)
    | none => some (.float (Binary64.ofInt value.toNat).neg)
  | .float value => some (.float value.neg)
  | _ => none

/-- The number without its sign. -/
def absolute : Value → Option Value
  | .int value =>
    some (((int64? value.toInt.natAbs).map .int).getD (.uint value.toInt.natAbs.toUInt64))
  | .uint value => some (.uint value)
  | .float value => some (.float value.abs)
  | _ => none

end Reshape.Value
