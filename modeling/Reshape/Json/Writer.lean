import Reshape.Json.Basic
import Reshape.Number.Decimal
import Reshape.Text.Quoted

/-!
Writing JSON: compactly, or with each item and member on a line of its own behind an indentation
per level.
-/

namespace Reshape.Json

/-- Numbers keep a digit after the point; from 10 to the 16th upward and below 10 to the minus
fifth they are in scientific form, and the exponent always has a sign. -/
def numberLayout : Decimal.Layout :=
  { scientificFrom := 16, scientificBelow := -5, positiveExponent := "+" }

/-- Four hexadecimal digits of a code point below 65536. -/
def fourDigits (n : Nat) : List Char :=
  let digits := Nat.toDigits 16 n
  List.replicate (4 - digits.length) '0' ++ digits

/-- A code point inside a string: quotes, backslashes and controls are escaped. -/
def escapedChar (c : Char) : List Char :=
  match c with
  | '"' => ['\\', '"']
  | '\\' => ['\\', '\\']
  | '\x08' => ['\\', 'b']
  | '\x0c' => ['\\', 'f']
  | '\n' => ['\\', 'n']
  | '\r' => ['\\', 'r']
  | '\t' => ['\\', 't']
  | c => if c.toNat < 0x20 then '\\' :: 'u' :: fourDigits c.toNat else [c]

/-- A text as a JSON string. -/
def quote (text : String) : String :=
  String.ofList ('"' :: text.toList.flatMap escapedChar ++ ['"'])

/-- A number; what no decimal denotes is written as null. -/
def writeFloat (x : Binary64) : String :=
  (x.render? numberLayout).getD "null"

/-- A tree other than an array or object, which is the same in every layout. -/
def leaf : Json → String
  | .null => "null"
  | .bool value => if value then "true" else "false"
  | .integer value => toString value
  | .float value => writeFloat value
  | .string text => quote text
  | .array _ | .object _ => ""

mutual

/-- Writes a tree without any white space behind a text. -/
def compactOnto (before : String) : Json → String
  | .array [] => before ++ "[]"
  | .array (item :: rest) =>
    (compactItemsOnto (compactOnto (before.push '[') item) rest).push ']'
  | .object [] => before ++ "\x7b\x7d"
  | .object ((name, value) :: rest) =>
    (compactMembersOnto (compactOnto (before.push '\x7b' ++ quote name ++ ":") value) rest).push
      '\x7d'
  | .null => before ++ leaf .null
  | .bool value => before ++ leaf (.bool value)
  | .integer value => before ++ leaf (.integer value)
  | .float value => before ++ leaf (.float value)
  | .string text => before ++ leaf (.string text)

/-- Writes the items after the first, each behind a comma. -/
def compactItemsOnto (before : String) : List Json → String
  | [] => before
  | item :: rest => compactItemsOnto (compactOnto (before.push ',') item) rest

/-- Writes the members after the first, each behind a comma. -/
def compactMembersOnto (before : String) : List (String × Json) → String
  | [] => before
  | (name, value) :: rest =>
    compactMembersOnto (compactOnto (before.push ',' ++ quote name ++ ":") value) rest

end

/-- A tree as text without any white space. -/
def compact (json : Json) : String :=
  compactOnto "" json

mutual

/-- Writes a tree whose items and members stand on lines of their own behind a text, `margin` being
the indentation of the line it starts on. Empty arrays and objects stay on one line. -/
def indentedOnto (indent margin before : String) : Json → String
  | .array [] => before ++ "[]"
  | .array (item :: rest) =>
    let inner := margin ++ indent
    indentedItemsOnto indent inner (indentedOnto indent inner (before ++ "[\n" ++ inner) item) rest
      ++ "\n" ++ margin ++ "]"
  | .object [] => before ++ "\x7b\x7d"
  | .object ((name, value) :: rest) =>
    let inner := margin ++ indent
    indentedMembersOnto indent inner
      (indentedOnto indent inner (before ++ "\x7b\n" ++ inner ++ quote name ++ ": ") value) rest
      ++ "\n" ++ margin ++ "\x7d"
  | .null => before ++ leaf .null
  | .bool value => before ++ leaf (.bool value)
  | .integer value => before ++ leaf (.integer value)
  | .float value => before ++ leaf (.float value)
  | .string text => before ++ leaf (.string text)

/-- Writes the items after the first, each on its line. -/
def indentedItemsOnto (indent margin before : String) : List Json → String
  | [] => before
  | item :: rest =>
    indentedItemsOnto indent margin (indentedOnto indent margin (before ++ ",\n" ++ margin) item)
      rest

/-- Writes the members after the first, each on its line. -/
def indentedMembersOnto (indent margin before : String) : List (String × Json) → String
  | [] => before
  | (name, value) :: rest =>
    indentedMembersOnto indent margin
      (indentedOnto indent margin (before ++ ",\n" ++ margin ++ quote name ++ ": ") value) rest

end

/-- A tree as text over several lines, each level indented by a text. -/
def pretty (indent : String) (json : Json) : String :=
  indentedOnto indent "" "" json

end Reshape.Json
