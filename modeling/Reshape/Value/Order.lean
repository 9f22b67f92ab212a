import Reshape.Value.Basic

/-!
Equality and order of values. Numbers are compared across their kinds, integers exactly and all
else as floating-point numbers; other values are equal only to values of their own type.
-/

namespace Reshape

/-- The order of two sequences of octets: that of the first octets that differ, a sequence coming
after its beginnings. -/
def compareOctets : Bytes → Bytes → Ordering
  | [], [] => .eq
  | [], _ :: _ => .lt
  | _ :: _, [] => .gt
  | a :: as, b :: bs => (compare a b).then (compareOctets as bs)

/-- The order of two texts by their code points. -/
def compareChars : List Char → List Char → Ordering
  | [], [] => .eq
  | [], _ :: _ => .lt
  | _ :: _, [] => .gt
  | a :: as, b :: bs => (compare a.toNat b.toNat).then (compareChars as bs)

namespace Value

/-- The order of two numbers, none if either value is no number or not a number. -/
def compareNumbers (a b : Value) : Option Ordering :=
  match a, b with
  | .int a, .int b => some (compare a.toInt b.toInt)
  | .uint a, .uint b => some (compare a.toNat b.toNat)
  | .int a, .uint b => some (compare a.toInt (b.toNat : Int))
  | .uint a, .int b => some (compare (a.toNat : Int) b.toInt)
  | a, b => do (← a.toFloat?).compare (← b.toFloat?)

/-- The order of two values: of two numbers, of two strings or of two sequences of octets. -/
def compare? (a b : Value) : Option Ordering :=
  match a, b with
  | .string a, .string b => some (compareChars a.toList b.toList)
  | .bytes a, .bytes b => some (compareOctets a b)
  | a, b => compareNumbers a b

mutual

/-- Whether two values hold the same. Whether they share memory plays no part, so that an object that
holds what is no number does not equal a copy of itself. -/
def equals : Value → Value → Bool
  | .null, .null => true
  | .bool a, .bool b => a == b
  | .string a, .string b => a == b
  | .bytes a, .bytes b => a == b
  | .array as, .array bs => equalItems as bs
  | .object as, .object bs => equalFields as bs
  | .delete, .delete => true
  | .nothing, .nothing => true
  | a, b => compareNumbers a b == some .eq

/-- Whether two sequences are equal item by item. -/
def equalItems : List Value → List Value → Bool
  | [], [] => true
  | a :: as, b :: bs => equals a b && equalItems as bs
  | _, _ => false

/-- Whether two sequences of fields agree in names and in what the values hold, whether or not they
are stored only once. -/
def equalFields : List (String × Value) → List (String × Value) → Bool
  | [], [] => true
  | (name, a) :: as, (other, b) :: bs => name == other && equals a b && equalFields as bs
  | _, _ => false

end

instance : BEq Value := ⟨equals⟩

end Value

end Reshape
