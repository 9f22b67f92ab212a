import Reshape.Text.Utf8

/-!
Writing octets as text: three forms of base 64, and hexadecimal. Decoding is strict. A text of base
64 is accepted only if it is what encoding writes: the padding is there, or not, as the scheme has
it, and the bits that a last group leaves over are zero.
-/

namespace Reshape

/-- A way to write octets as text. -/
inductive Scheme where
  /-- Base 64 with padding. -/
  | base64
  /-- Base 64 with padding in the alphabet for addresses. -/
  | base64url
  /-- Base 64 without padding in the alphabet for addresses. -/
  | base64rawurl
  /-- Two hexadecimal digits to the octet. -/
  | hex
  deriving DecidableEq, Repr

namespace Scheme

/-- The scheme of a name. -/
def named? (name : String) : Option Scheme :=
  match name with
  | "base64" => some .base64
  | "base64url" => some .base64url
  | "base64rawurl" => some .base64rawurl
  | "hex" => some .hex
  | _ => none

/-- How the digits of base 64 are written. -/
structure Digits where
  /-- The digit 62. -/
  penultimate : UInt8
  /-- The digit 63. -/
  last : UInt8
  /-- Whether the last group is filled up. -/
  isPadded : Bool

/-- The usual digits of base 64. -/
def usual : Digits := ⟨0x2B, 0x2F, true⟩

/-- The digits for addresses. -/
def forAddresses (isPadded : Bool) : Digits := ⟨0x2D, 0x5F, isPadded⟩

/-- The octet that fills up a last group. -/
def pad : UInt8 := 0x3D

namespace Digits

/-- The octet that writes a digit. -/
def octet (digits : Digits) (n : Nat) : UInt8 :=
  if n < 26 then 0x41 + n.toUInt8
  else if n < 52 then 0x61 + (n - 26).toUInt8
  else if n < 62 then 0x30 + (n - 52).toUInt8
  else if n = 62 then digits.penultimate
  else digits.last

/-- The digit that an octet writes. -/
def value? (digits : Digits) (b : UInt8) : Option Nat :=
  if 0x41 ≤ b ∧ b ≤ 0x5A then some (b.toNat - 0x41)
  else if 0x61 ≤ b ∧ b ≤ 0x7A then some (b.toNat - 0x61 + 26)
  else if 0x30 ≤ b ∧ b ≤ 0x39 then some (b.toNat - 0x30 + 52)
  else if b = digits.penultimate then some 62
  else if b = digits.last then some 63
  else none

/-- What fills up a last group that lacks a number of digits. -/
def filling (digits : Digits) (missing : Nat) : Bytes :=
  if digits.isPadded then List.replicate missing pad else []

/-- The digits of octets: four for three, and two or three for the one or two that are left. -/
def encode (digits : Digits) : Bytes → Bytes
  | a :: b :: c :: rest =>
    let group := a.toNat * 65536 + b.toNat * 256 + c.toNat
    digits.octet (group / 262144) :: digits.octet (group / 4096 % 64) ::
      digits.octet (group / 64 % 64) :: digits.octet (group % 64) :: encode digits rest
  | [a, b] =>
    let group := a.toNat * 1024 + b.toNat * 4
    digits.octet (group / 4096) :: digits.octet (group / 64 % 64) :: digits.octet (group % 64) ::
      digits.filling 1
  | [a] =>
    let group := a.toNat * 16
    digits.octet (group / 64) :: digits.octet (group % 64) :: digits.filling 2
  | [] => []

/-- The octet of two digits, which leave no bit over. -/
def decodeOne? (digits : Digits) (p q : UInt8) : Option Bytes := do
  let p ← digits.value? p
  let q ← digits.value? q
  let group := p * 64 + q
  if group % 16 = 0 then some [(group / 16).toUInt8] else none

/-- The octets of three digits, which leave no bit over. -/
def decodeTwo? (digits : Digits) (p q r : UInt8) : Option Bytes := do
  let p ← digits.value? p
  let q ← digits.value? q
  let r ← digits.value? r
  let group := (p * 64 + q) * 64 + r
  if group % 4 = 0 then some [(group / 1024).toUInt8, (group / 4 % 256).toUInt8] else none

/-- The octets of four digits. -/
def decodeThree? (digits : Digits) (p q r s : UInt8) : Option Bytes := do
  let p ← digits.value? p
  let q ← digits.value? q
  let r ← digits.value? r
  let s ← digits.value? s
  let group := ((p * 64 + q) * 64 + r) * 64 + s
  some [(group / 65536).toUInt8, (group / 256 % 256).toUInt8, (group % 256).toUInt8]

/-- The octets of a last group. -/
def decodeLast? (digits : Digits) (group : Bytes) : Option Bytes :=
  match digits.isPadded, group with
  | true, [p, q, r, s] =>
    if s = pad then
      if r = pad then digits.decodeOne? p q else digits.decodeTwo? p q r
    else digits.decodeThree? p q r s
  | false, [p, q, r, s] => digits.decodeThree? p q r s
  | false, [p, q, r] => digits.decodeTwo? p q r
  | false, [p, q] => digits.decodeOne? p q
  | _, _ => none

/-- The octets that digits write, if they write any. -/
def decode? (digits : Digits) : Bytes → Option Bytes
  | p :: q :: r :: s :: next :: rest => do
    let octets ← digits.decodeThree? p q r s
    return octets ++ (← decode? digits (next :: rest))
  | [] => some []
  | group => digits.decodeLast? group

end Digits

/-- The octet of a hexadecimal digit in lower case. -/
def hexOctet (n : Nat) : UInt8 :=
  if n < 10 then 0x30 + n.toUInt8 else 0x61 + (n - 10).toUInt8

/-- The hexadecimal digit that an octet writes in either case. -/
def hexValue? (b : UInt8) : Option Nat :=
  if 0x30 ≤ b ∧ b ≤ 0x39 then some (b.toNat - 0x30)
  else if 0x61 ≤ b ∧ b ≤ 0x66 then some (b.toNat - 0x61 + 10)
  else if 0x41 ≤ b ∧ b ≤ 0x46 then some (b.toNat - 0x41 + 10)
  else none

/-- Octets as hexadecimal digits. -/
def encodeHex (octets : Bytes) : Bytes :=
  octets.flatMap fun b => [hexOctet (b.toNat / 16), hexOctet (b.toNat % 16)]

/-- The octets that hexadecimal digits write, if they write any. -/
def decodeHex? : Bytes → Option Bytes
  | [] => some []
  | [_] => none
  | high :: low :: rest => do
    let high ← hexValue? high
    let low ← hexValue? low
    return (high * 16 + low).toUInt8 :: (← decodeHex? rest)

/-- The text of octets in a scheme. -/
def encode (scheme : Scheme) (octets : Bytes) : Bytes :=
  match scheme with
  | .base64 => usual.encode octets
  | .base64url => (forAddresses true).encode octets
  | .base64rawurl => (forAddresses false).encode octets
  | .hex => encodeHex octets

/-- The octets of a text in a scheme, if it is one. -/
def decode? (scheme : Scheme) (text : Bytes) : Option Bytes :=
  match scheme with
  | .base64 => usual.decode? text
  | .base64url => (forAddresses true).decode? text
  | .base64rawurl => (forAddresses false).decode? text
  | .hex => decodeHex? text

end Scheme

end Reshape
