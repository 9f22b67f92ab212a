import Reshape.Number.Decimal

/-!
Reading numerals: whole numbers that must fit 64 bits, with or without a sign, and decimals with a
point, an exponent or a name such as `inf`.
-/

namespace Reshape

/-- The signed 64-bit integer equal to an integer, if it is in range. -/
def int64? (n : Int) : Option Int64 :=
  if -0x8000000000000000 ≤ n ∧ n < 0x8000000000000000 then some (Int64.ofInt n) else none

/-- The unsigned 64-bit integer equal to an integer, if it is in range. -/
def uint64? (n : Int) : Option UInt64 :=
  if 0 ≤ n ∧ n < 0x10000000000000000 then some (UInt64.ofNat n.toNat) else none

namespace Numeral

/-- The value of a sequence of decimal digits after the digits already read. -/
def accumulate (value : Nat) (digits : List Char) : Nat :=
  digits.foldl (fun value c => value * 10 + (c.toNat - '0'.toNat)) value

/-- The whole number that a text of one or more decimal digits writes. -/
def natural? (text : List Char) : Option Nat :=
  if !text.isEmpty && text.all Char.isDigit then some (accumulate 0 text) else none

/-- A text without the sign it may start with, and whether that is a minus. -/
def signed : List Char → Bool × List Char
  | '-' :: rest => (true, rest)
  | '+' :: rest => (false, rest)
  | rest => (false, rest)

/-- The integer that a text writes: decimal digits, perhaps after a sign. -/
def integer? (text : List Char) : Option Int :=
  let (negative, digits) := signed text
  (natural? digits).map fun n => if negative then -(n : Int) else n

/-- The signed 64-bit integer that a text writes. -/
def readInt64? (text : List Char) : Option Int64 :=
  (integer? text).bind int64?

/-- The unsigned 64-bit integer that a text writes: no minus, not even before a zero. -/
def readUInt64? (text : List Char) : Option UInt64 :=
  match text with
  | '-' :: _ => none
  | text => (integer? text).bind uint64?

/-- The position that a path segment writes. -/
def position? (segment : String) : Option Nat :=
  (readUInt64? segment.toList).map UInt64.toNat

/-- The decimal of digits before and after a point, with an exponent. -/
def decimal (whole fraction : List Char) (exponent : Int) : Decimal :=
  ⟨accumulate (accumulate 0 whole) fraction, exponent - fraction.length⟩

/-- The value of digits read on to a value as long as it stays below two to the 64, and how many
digits are left from the first one on for which it would not. -/
def significand (value : Nat) : List Char → Nat × Nat
  | [] => (value, 0)
  | c :: rest =>
    let next := value * 10 + (c.toNat - '0'.toNat)
    if next < 0x10000000000000000 then significand next rest else (value, rest.length + 1)

/-- The decimal of digits before and after a point, with an exponent, whose significand has 64 bits:
the whole digits that are left count as zeros, and those behind the point do not count. -/
def clipped (whole fraction : List Char) (exponent : Int) : Decimal :=
  let (value, zeros) := significand 0 whole
  let (value, rest) := significand value fraction
  ⟨value, exponent + zeros - (fraction.length - rest : Nat)⟩

/-- The exponent that a text writes after its mark: a sign and at least one digit. No text at all
is the exponent zero. -/
def exponent? : List Char → Option Int
  | [] => some 0
  | c :: rest => if c == 'e' || c == 'E' then integer? rest else none

/-- The decimal that a text without sign writes: digits with an optional point and exponent, at
least one digit on either side of the point. -/
def decimal? (text : List Char) : Option Decimal :=
  let whole := text.takeWhile Char.isDigit
  let rest := text.dropWhile Char.isDigit
  let (fraction, rest) := match rest with
    | '.' :: rest => (rest.takeWhile Char.isDigit, rest.dropWhile Char.isDigit)
    | rest => ([], rest)
  if whole.isEmpty && fraction.isEmpty then none
  else (exponent? rest).map (decimal whole fraction)

/-- The binary floating-point number that a text writes, or that it names. -/
def readBinary64? (text : List Char) : Option Binary64 :=
  let (negative, rest) := signed text
  match decimal? rest with
  | some decimal => some (decimal.toBinary64 negative)
  | none =>
    let name := String.ofList (rest.map Char.toLower)
    if name = "inf" ∨ name = "infinity" then some (.infinity negative)
    else if name = "nan" then some .nan
    else none

end Numeral

end Reshape
