import Reshape.Text.Tables.Casing

/-!
Upper and lower case. A code point may become several, and the lower case of a capital sigma hangs
on whether it ends a word. On the basic letters both maps are the usual ones.
-/

namespace Reshape.Text

/-- The upper case of a code point. -/
def upperChar (c : Char) : List Char :=
  if c.toNat < 128 then [c.toUpper]
  else match Casing.upper.images? c.toNat with
    | some images => images.map Char.ofNat
    | none => [c]

/-- The lower case of a code point by itself. -/
def lowerChar (c : Char) : List Char :=
  if c.toNat < 128 then [c.toLower]
  else match Casing.lower.images? c.toNat with
    | some images => images.map Char.ofNat
    | none => [c]

/-- The upper case of a text. -/
def upper (text : List Char) : List Char :=
  text.flatMap upperChar

/-- Whether, past the code points that case ignores, a cased one comes first. -/
def meetsCased (text : List Char) : Bool :=
  match text.dropWhile fun c => Casing.ignorable.has c.toNat with
  | c :: _ => Casing.cased.has c.toNat
  | [] => false

/-- The lower case of a text, given the code points before it, the nearest first. A capital sigma
after a cased letter and not before one becomes a final sigma. -/
def lowerAfter (before : List Char) : List Char → List Char
  | [] => []
  | c :: rest =>
    let image :=
      if c == 'Σ' then
        if meetsCased before && !meetsCased rest then ['ς'] else ['σ']
      else lowerChar c
    image ++ lowerAfter (c :: before) rest

/-- The lower case of a text. -/
def lower (text : List Char) : List Char :=
  lowerAfter [] text

/-- A text with its first code point in upper case. -/
def capitalized : List Char → List Char
  | [] => []
  | c :: rest => upperChar c ++ rest

/-- The upper case of an octet that holds a basic letter. -/
def upperOctet (b : UInt8) : UInt8 :=
  if 0x61 ≤ b ∧ b ≤ 0x7A then b - 0x20 else b

/-- The lower case of an octet that holds a basic letter. -/
def lowerOctet (b : UInt8) : UInt8 :=
  if 0x41 ≤ b ∧ b ≤ 0x5A then b + 0x20 else b

end Reshape.Text
