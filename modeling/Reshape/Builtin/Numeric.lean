import Reshape.Error
import Reshape.Text.Blank
import Reshape.Value.Arithmetic

/-!
Numbers from other values, and integers that nothing is lost for; arrays of integers in equal steps.
The length of a range is computed before it is built, and one that is too long is refused. A range is
built by taking one step after the other, which ends at the stop or where no integer of 64 bits
follows.
-/

namespace Reshape

namespace Value

/-- The number that a text writes, in the narrowest kind. -/
def parseNumber? (text : List Char) : Option Value :=
  let text := Text.trimmed Text.isBlank text
  ((Numeral.readInt64? text).map .int).or
    (((Numeral.readUInt64? text).map .uint).or ((Numeral.readBinary64? text).map .float))

/-- The number that a value is or, as text, writes. -/
def toNumber? : Value → Option Value
  | .string text => parseNumber? text.toList
  | .bytes octets => (Utf8.decode? octets).bind parseNumber?
  | value => if value.isNumber then some value else none

/-- The number that a value is or writes, or the error that it is none. -/
def toNumber (value : Value) : Except Error Value :=
  match value.toNumber? with
  | some number => .ok number
  | none => .error (.expected "number" value)

/-- The signed integer that a value is or writes. -/
def toSigned (value : Value) : Except Error Value := do
  match (← value.toNumber).toInt64? with
  | some result => return .int result
  | none => throw (.general (.inexact value "int64"))

/-- The unsigned integer that a value is or writes. -/
def toUnsigned (value : Value) : Except Error Value := do
  match (← value.toNumber).toUInt64? with
  | some result => return .uint result
  | none => throw (.general (.inexact value "uint64"))

/-- The floating-point number that a value is or writes. -/
def toFloating (value : Value) : Except Error Value :=
  match value.toNumber?.bind toFloat? with
  | some result => .ok (.float result)
  | none => .error (.expected "number" value)

/-- The truth value that a value is, writes, or as a number stands for: zero is false. -/
def toTruth? : Value → Option Bool
  | .bool value => some value
  | .string "true" => some true
  | .string "false" => some false
  | value => value.toFloat?.map fun number => !number.isZero

/-- The value of a number operation, or the error that the operand is no number. -/
def numeric (operation : Value → Option Value) (value : Value) : Except Error Value :=
  match operation value with
  | some result => .ok result
  | none => .error (.expected "number" value)

end Value

namespace Range

/-- The greatest length of a range. -/
def limit : Int := 1000000

/-- The number of steps from a start up to but not including a stop. -/
def count (start stop step : Int) : Int :=
  -- A last step that goes past the stop counts, as its start is still before it.
  Int.tdiv (stop - start + step - step.sign) step

/-- Whether an integer stands before a stop in the direction of the steps. -/
def isBefore (stop step current : Int64) : Bool :=
  (0 < step && current < stop) || (step < 0 && stop < current)

/-- How far an integer is before a stop in the direction of the steps. -/
def distance (stop step current : Int64) : Nat :=
  if 0 < step then (stop.toInt - current.toInt).toNat else (current.toInt - stop.toInt).toNat

/-- A step from before the stop leads nearer to the stop, or past it. -/
theorem distance_lt {stop step current next : Int64} (before : isBefore stop step current = true)
    (found : int64? (current.toInt + step.toInt) = some next) :
    distance stop step next < distance stop step current := by
  unfold int64? at found
  split at found
  next inside =>
    obtain rfl := Option.some.inj found
    -- The step is not reduced to 64 bits, so that it can be reckoned with as an integer.
    have sum := Int64.toInt_ofInt_of_le inside.1 inside.2
    simp only [isBefore, Bool.or_eq_true, Bool.and_eq_true, decide_eq_true_eq] at before
    simp only [distance, sum, Int64.lt_iff_toInt_lt, Int64.toInt_zero] at before ⊢
    split <;> omega
  next outside => cases found

/-- The integers from one on, in steps up to but not including a stop, behind those that have been
taken, the last of these first. Where the next step leads beyond 64 bits no other one follows. -/
def walk (stop step : Int64) (taken : List Int64) (current : Int64) : List Int64 :=
  if _before : isBefore stop step current then
    match _found : int64? (current.toInt + step.toInt) with
    | some next => walk stop step (current :: taken) next
    | none => (current :: taken).reverse
  else taken.reverse
termination_by distance stop step current
decreasing_by exact distance_lt _before _found

/-- The array of integers from a start up to but not including a stop, if the steps lead there and
there are not too many. -/
def build (start stop step : Int64) : Except Error Value :=
  if step = 0 then .error (.general .zeroStep)
  else if (0 < step ∧ stop < start) ∨ (step < 0 ∧ start < stop) then
    .error (.general (.endlessRange start.toInt stop.toInt step.toInt))
  else
    let length := count start.toInt stop.toInt step.toInt
    if limit < length then
      .error (.general (.longRange start.toInt stop.toInt length limit))
    else .ok (.array ((walk stop step [] start).map .int))

end Range

end Reshape
