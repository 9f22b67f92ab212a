import Reshape.Number.Numeral
import Reshape.Text.Utf8
import Reshape.Value.Fields

/-!
Values: what expressions evaluate to. Beside the data of JSON there are octets, integers of two
kinds, and two markers, which ask to delete a target or to leave it as it is.
-/

namespace Reshape

/-- The value of an expression. -/
inductive Value where
  | null
  | bool (value : Bool)
  /-- A signed integer. -/
  | int (value : Int64)
  /-- An unsigned integer. -/
  | uint (value : UInt64)
  /-- A floating-point number. -/
  | float (value : Binary64)
  | string (text : String)
  | bytes (octets : Bytes)
  | array (items : List Value)
  /-- Values under names, the names in ascending order. -/
  | object (fields : List (String × Value))
  /-- Asks to remove the target. -/
  | delete
  /-- Asks to leave the target as it is. -/
  | nothing
  deriving Repr

instance : Inhabited Value := ⟨.null⟩

namespace Value

/-- The name of a value's type. -/
def typeName : Value → String
  | .null => "null"
  | .bool _ => "bool"
  | .int _ | .uint _ | .float _ => "number"
  | .string _ => "string"
  | .bytes _ => "bytes"
  | .array _ => "array"
  | .object _ => "object"
  | .delete => "delete"
  | .nothing => "nothing"

/-- Whether the value is null. -/
def isNull : Value → Bool
  | .null => true
  | _ => false

/-- Whether the value is a number of any kind. -/
def isNumber : Value → Bool
  | .int _ | .uint _ | .float _ => true
  | _ => false

/-- Whether the value is one of the two markers. -/
def isMarker : Value → Bool
  | .delete | .nothing => true
  | _ => false

/-- The truth value, if the value is one. -/
def toBool? : Value → Option Bool
  | .bool value => some value
  | _ => none

/-- The text, if the value is a string. -/
def toString? : Value → Option String
  | .string text => some text
  | _ => none

/-- The number as a floating-point number, rounded if it has to be. -/
def toFloat? : Value → Option Binary64
  | .int value => some (.ofInt value.toInt)
  | .uint value => some (.ofInt value.toNat)
  | .float value => some value
  | _ => none

/-- The signed integer that a floating-point number is, if it is one in range. -/
def floatToInt? (x : Binary64) : Option Int64 :=
  x.toInt?.bind int64?

/-- The number as a signed integer, if nothing is lost. -/
def toInt64? : Value → Option Int64
  | .int value => some value
  | .uint value => int64? value.toNat
  | .float value => floatToInt? value
  | _ => none

/-- The number as an unsigned integer, if nothing is lost on the way through the signed ones. -/
def toUInt64? : Value → Option UInt64
  | .int value => uint64? value.toInt
  | .uint value => some value
  | .float value => (floatToInt? value).bind fun value => uint64? value.toInt
  | _ => none

/-- A floating-point number as a signed integer if it is one, and else as it is. -/
def ofFloat (x : Binary64) : Value :=
  match floatToInt? x with
  | some value => .int value
  | none => .float x

end Value

/-- A text: the code points of a string, or octets. -/
inductive Text where
  /-- The code points of a string. -/
  | chars (text : List Char)
  /-- A sequence of octets. -/
  | octets (octets : Bytes)
  deriving DecidableEq, Repr

namespace Value

/-- The text view of a string or of octets. -/
def toText? : Value → Option Text
  | .string text => some (.chars text.toList)
  | .bytes octets => some (.octets octets)
  | _ => none

end Value

end Reshape
