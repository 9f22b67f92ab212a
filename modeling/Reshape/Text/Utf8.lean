/-!
UTF-8 between code points and octets. Encoding is total; decoding comes in a strict form, which
refuses ill-formed octets, and a lossy form, which puts U+FFFD for each maximal ill-formed part.
-/

namespace Reshape

/-- A sequence of octets. -/
abbrev Bytes := List UInt8

namespace Utf8

/-- The octets of one code point, shortest form. -/
def encodeChar (c : Char) : Bytes :=
  let n := c.toNat
  if n < 0x80 then [n.toUInt8]
  else if n < 0x800 then [(0xC0 + n / 0x40).toUInt8, (0x80 + n % 0x40).toUInt8]
  else if n < 0x10000 then
    [(0xE0 + n / 0x1000).toUInt8, (0x80 + n / 0x40 % 0x40).toUInt8, (0x80 + n % 0x40).toUInt8]
  else
    [(0xF0 + n / 0x40000).toUInt8, (0x80 + n / 0x1000 % 0x40).toUInt8,
      (0x80 + n / 0x40 % 0x40).toUInt8, (0x80 + n % 0x40).toUInt8]

/-- The octets of a sequence of code points. -/
def encode (text : List Char) : Bytes :=
  text.flatMap encodeChar

/-- The number of octets one code point takes. -/
def width (c : Char) : Nat :=
  let n := c.toNat
  if n < 0x80 then 1 else if n < 0x800 then 2 else if n < 0x10000 then 3 else 4

/-- An octet that continues a code point. -/
def isTail (b : UInt8) : Bool :=
  0x80 ≤ b && b ≤ 0xBF

/-- What the first octet of a code point announces. -/
inductive Lead where
  /-- The octet is a code point by itself. -/
  | single
  /-- A number of tails follow, the first of them between the two bounds. -/
  | opens (tails : Nat) (low high : UInt8)
  /-- No code point starts so. -/
  | refused
  deriving DecidableEq, Repr

/-- The reading of a first octet: overlong forms, surrogates and code points above U+10FFFF are
excluded by the bounds on the second octet. -/
def lead (b : UInt8) : Lead :=
  if b < 0x80 then .single
  else if b < 0xC2 then .refused
  else if b < 0xE0 then .opens 1 0x80 0xBF
  else if b == 0xE0 then .opens 2 0xA0 0xBF
  else if b == 0xED then .opens 2 0x80 0x9F
  else if b < 0xF0 then .opens 2 0x80 0xBF
  else if b == 0xF0 then .opens 3 0x90 0xBF
  else if b < 0xF4 then .opens 3 0x80 0xBF
  else if b == 0xF4 then .opens 3 0x80 0x8F
  else .refused

/-- Reads a number of tails into the code so far; a missing tail gives no code, and the octets up
to it are used up. -/
def readTails : Nat → UInt8 → UInt8 → Nat → Bytes → Option Nat × Bytes
  | 0, _, _, code, rest => (some code, rest)
  | _ + 1, _, _, _, [] => (none, [])
  | tails + 1, low, high, code, b :: rest =>
    if low ≤ b ∧ b ≤ high then
      readTails tails 0x80 0xBF (code * 0x40 + b.toNat % 0x40) rest
    else (none, b :: rest)

/-- The code bits of a first octet that announces a number of tails. -/
def leadBits (tails : Nat) (b : UInt8) : Nat :=
  b.toNat % (0x40 >>> tails)

/-- Reads one code point, or passes one maximal ill-formed part, giving none for it. -/
def scan (b : UInt8) (rest : Bytes) : Option Char × Bytes :=
  match lead b with
  | .single => (some (Char.ofNat b.toNat), rest)
  | .refused => (none, rest)
  | .opens tails low high =>
    match readTails tails low high (leadBits tails b) rest with
    | (code, rest') => (code.map Char.ofNat, rest')

/-- Reading tails leaves no more octets than there were. -/
theorem readTails_length (tails : Nat) (low high : UInt8) (code : Nat) (rest : Bytes) :
    (readTails tails low high code rest).2.length ≤ rest.length := by
  induction tails generalizing low high code rest with
  | zero => simp [readTails]
  | succ tails ih =>
    cases rest with
    | nil => simp [readTails]
    | cons b rest =>
      rw [readTails]
      split
      -- A tail in the range is one octet less to read; another one ends the sequence.
      · exact Nat.le_trans (ih _ _ _ _) (Nat.le_succ _)
      · exact Nat.le_refl _

/-- Scanning leaves no more octets than there were. -/
theorem scan_length (b : UInt8) (rest : Bytes) : (scan b rest).2.length ≤ rest.length := by
  unfold scan
  split
  · exact Nat.le_refl _
  · exact Nat.le_refl _
  · exact readTails_length _ _ _ _ _

/-- Every code point in turn, none standing for a maximal ill-formed part. -/
def parts : Bytes → List (Option Char)
  | [] => []
  | b :: rest => (scan b rest).1 :: parts (scan b rest).2
termination_by octets => octets.length
decreasing_by exact Nat.lt_succ_of_le (scan_length b rest)

/-- The code points of well-formed octets, or none. -/
def decode? (octets : Bytes) : Option (List Char) :=
  (parts octets).mapM id

/-- The code points of any octets, U+FFFD standing for each maximal ill-formed part. -/
def decodeLossy (octets : Bytes) : List Char :=
  (parts octets).map fun part => part.getD '\uFFFD'

/-- The octets of a text. -/
def ofText (text : String) : Bytes :=
  encode text.toList

/-- The text that well-formed octets hold, or none. -/
def toText? (octets : Bytes) : Option String :=
  (decode? octets).map String.ofList

/-- The text that octets hold, U+FFFD standing for each maximal ill-formed part. -/
def toText (octets : Bytes) : String :=
  String.ofList (decodeLossy octets)

end Utf8

end Reshape
