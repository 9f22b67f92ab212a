import Reshape.Text.Tables.Category
import Reshape.Text.Tables.Clusters

/-!
Texts in double quotes, for messages: quotes, backslashes, marks and whatever does not print are
written as escapes.
-/

namespace Reshape.Text

/-- Whether a code point prints: controls, formats, unassigned code points and all separators but
the space do not. -/
def isPrintable (c : Char) : Bool :=
  let n := c.toNat
  if n < 0x7F then 0x20 ≤ n
  else match Category.table.tag? n with
    | some tag => tag < 22
    | none => false

/-- A code point as a number in hexadecimal, in lower case. -/
def hexadecimal (n : Nat) : List Char :=
  Nat.toDigits 16 n

/-- One code point of a quoted text. -/
def quotedChar (c : Char) : List Char :=
  match c with
  | '\x00' => ['\\', '0']
  | '\t' => ['\\', 't']
  | '\r' => ['\\', 'r']
  | '\n' => ['\\', 'n']
  | '\\' => ['\\', '\\']
  | '"' => ['\\', '"']
  | c =>
    if isPrintable c && !Clusters.extending.has c.toNat then [c]
    else ['\\', 'u', '\x7b'] ++ hexadecimal c.toNat ++ ['\x7d']

/-- A text in double quotes. -/
def quoted (text : List Char) : List Char :=
  '"' :: text.flatMap quotedChar ++ ['"']

end Reshape.Text
