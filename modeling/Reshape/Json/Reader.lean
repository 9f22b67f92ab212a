import Reshape.Json.Basic
import Reshape.Number.Numeral

/-!
Reading JSON, strictly: one value with white space around it and nothing else, strings without raw
controls or lone surrogates, numbers without superfluous zeros, and a bounded nesting. Decimals are
read quickly and not always to the nearest floating-point number.
-/

namespace Reshape.Json

/-- The white space of JSON. -/
def isSpace (c : Char) : Bool :=
  c == ' ' || c == '\n' || c == '\t' || c == '\r'

/-- A text without the white space it starts with. -/
def skipSpace (text : List Char) : List Char :=
  text.dropWhile isSpace

/-- The value of a hexadecimal digit in either case. -/
def hexDigit? (c : Char) : Option Nat :=
  if c.isDigit then some (c.toNat - '0'.toNat)
  else if 'a' ≤ c ∧ c ≤ 'f' then some (c.toNat - 'a'.toNat + 10)
  else if 'A' ≤ c ∧ c ≤ 'F' then some (c.toNat - 'A'.toNat + 10)
  else none

/-- The value of four hexadecimal digits. -/
def hexUnit? (a b c d : Char) : Option Nat := do
  let a ← hexDigit? a
  let b ← hexDigit? b
  let c ← hexDigit? c
  let d ← hexDigit? d
  return ((a * 16 + b) * 16 + c) * 16 + d

/-- The code point that a one-letter escape stands for. -/
def shortEscape? (c : Char) : Option Char :=
  match c with
  | '"' => some '"'
  | '\\' => some '\\'
  | '/' => some '/'
  | 'b' => some '\x08'
  | 'f' => some '\x0c'
  | 'n' => some '\n'
  | 'r' => some '\r'
  | 't' => some '\t'
  | _ => none

/-- Reads the rest of a string behind its opening quote: its text, and what follows the closing
quote. Surrogates stand in pairs only. -/
def stringBody (done : List Char) : List Char → Option (String × List Char)
  | [] => none
  | '"' :: rest => some (String.ofList done.reverse, rest)
  | '\\' :: 'u' :: a :: b :: c :: d :: '\\' :: 'u' :: e :: f :: g :: h :: rest =>
    match hexUnit? a b c d with
    | none => none
    | some unit =>
      -- A high surrogate needs the low one in the escape behind it.
      if 0xD800 ≤ unit ∧ unit < 0xDC00 then
        match hexUnit? e f g h with
        | some low =>
          if 0xDC00 ≤ low ∧ low < 0xE000 then
            let code := 0x10000 + (unit - 0xD800) * 0x400 + (low - 0xDC00)
            stringBody (Char.ofNat code :: done) rest
          else none
        | none => none
      else if 0xDC00 ≤ unit ∧ unit < 0xE000 then none
      -- The escape behind it is one of its own.
      else stringBody (Char.ofNat unit :: done) ('\\' :: 'u' :: e :: f :: g :: h :: rest)
  | '\\' :: 'u' :: a :: b :: c :: d :: rest =>
    match hexUnit? a b c d with
    | none => none
    | some unit =>
      if 0xD800 ≤ unit ∧ unit < 0xE000 then none
      else stringBody (Char.ofNat unit :: done) rest
  | '\\' :: c :: rest =>
    match shortEscape? c with
    | some c => stringBody (c :: done) rest
    | none => none
  | c :: rest => if c.toNat < 0x20 || c == '\\' then none else stringBody (c :: done) rest

/-- The number of a sign and digits without point and exponent: an integer of 64 bits, or else a
floating-point number. A negative zero is the latter. -/
def wholeNumber (negative : Bool) (digits : List Char) : Json :=
  let magnitude := Numeral.accumulate 0 digits
  let value : Int := if negative then -magnitude else magnitude
  -- Integers have only one zero.
  if negative && magnitude == 0 then .float (.zero true)
  else if -0x8000000000000000 ≤ value ∧ value < 0x10000000000000000 then .integer value
  else .float ((Numeral.clipped digits [] 0).scaled negative)

/-- Reads the digits of an exponent behind its mark. -/
def exponentDigits (text : List Char) : Option (Int × List Char) :=
  let (negative, rest) := Numeral.signed text
  let digits := rest.takeWhile Char.isDigit
  if digits.isEmpty then none
  else
    let size : Int := Numeral.accumulate 0 digits
    some (if negative then -size else size, rest.dropWhile Char.isDigit)

/-- Reads the digits behind a point, if there is a point, and whether there is one. -/
def fractionPart : List Char → Option (List Char × List Char × Bool)
  | '.' :: rest =>
    let fraction := rest.takeWhile Char.isDigit
    if fraction.isEmpty then none else some (fraction, rest.dropWhile Char.isDigit, true)
  | text => some ([], text, false)

/-- Reads an exponent with its mark, if there is a mark, and whether there is one. -/
def exponentPart : List Char → Option (Int × List Char × Bool)
  | [] => some (0, [], false)
  | c :: rest =>
    if c == 'e' || c == 'E' then
      (exponentDigits rest).map fun (exponent, rest) => (exponent, rest, true)
    else some (0, c :: rest, false)

/-- Reads the point and exponent that may follow the whole digits of a number. With either of them
it is a floating-point number, which is scaled and need not be the nearest one; what is too large for
all floating-point numbers is refused. -/
def numberTail (negative : Bool) (whole text : List Char) : Option (Json × List Char) := do
  let (fraction, text, pointed) ← fractionPart text
  let (exponent, text, raised) ← exponentPart text
  let number := if pointed || raised then
      .float ((Numeral.clipped whole fraction exponent).scaled negative)
    else wholeNumber negative whole
  match number with
  | .float value => if value.isFinite then some (.float value, text) else none
  | number => some (number, text)

/-- Reads a number behind its minus, if it has one. -/
def number (negative : Bool) : List Char → Option (Json × List Char)
  | '0' :: rest =>
    match rest with
    -- A zero at the start is the only whole digit.
    | c :: _ => if c.isDigit then none else numberTail negative ['0'] rest
    | [] => numberTail negative ['0'] rest
  | text =>
    let whole := text.takeWhile Char.isDigit
    if whole.isEmpty then none else numberTail negative whole (text.dropWhile Char.isDigit)

/-- What the reader is in the middle of: an array or object that is open, with what it has so far,
the last item first. -/
inductive Frame where
  | items (done : List Json)
  | members (done : List (String × Json)) (name : String)

/-- What the reader expects next. -/
inductive Expecting where
  /-- A value, or the end of the array just opened. -/
  | value (mayClose : Bool)
  /-- A member's name, or the end of the object just opened. -/
  | name (done : List (String × Json)) (mayClose : Bool)
  /-- What follows a value that is complete. -/
  | continuation (value : Json)

/-- The state of reading: what is expected, the arrays and objects that are open, the innermost
first, and the text left. -/
structure Reading where
  /-- What comes next. -/
  expecting : Expecting
  /-- The open arrays and objects. -/
  opened : List Frame
  /-- The text left. -/
  text : List Char

/-- One step of reading; none if the text is no JSON. -/
def Reading.step (limit : Nat) (state : Reading) : Option Reading :=
  let text := skipSpace state.text
  match state.expecting, text with
  | .value mayClose, ']' :: rest =>
    -- Behind a comma an array does not end.
    match mayClose, state.opened with
    | true, .items done :: outer => some ⟨.continuation (.array done.reverse), outer, rest⟩
    | _, _ => none
  | .value _, '[' :: rest =>
    if state.opened.length < limit then some ⟨.value true, .items [] :: state.opened, rest⟩
    else none
  | .value _, '\x7b' :: rest =>
    if state.opened.length < limit then some ⟨.name [] true, state.opened, rest⟩ else none
  | .value _, '"' :: rest =>
    (stringBody [] rest).map fun (text, rest) => ⟨.continuation (.string text), state.opened, rest⟩
  | .value _, 'n' :: 'u' :: 'l' :: 'l' :: rest => some ⟨.continuation .null, state.opened, rest⟩
  | .value _, 't' :: 'r' :: 'u' :: 'e' :: rest =>
    some ⟨.continuation (.bool true), state.opened, rest⟩
  | .value _, 'f' :: 'a' :: 'l' :: 's' :: 'e' :: rest =>
    some ⟨.continuation (.bool false), state.opened, rest⟩
  | .value _, '-' :: rest =>
    (number true rest).map fun (value, rest) => ⟨.continuation value, state.opened, rest⟩
  | .value _, text =>
    (number false text).map fun (value, rest) => ⟨.continuation value, state.opened, rest⟩
  | .name done mayClose, '\x7d' :: rest =>
    if mayClose then some ⟨.continuation (.object done.reverse), state.opened, rest⟩ else none
  | .name done _, '"' :: rest =>
    match stringBody [] rest with
    | none => none
    | some (name, rest) =>
      match skipSpace rest with
      | ':' :: rest => some ⟨.value false, .members done name :: state.opened, rest⟩
      | _ => none
  | .name _ _, _ => none
  | .continuation value, text =>
    match state.opened, text with
    | .items done :: outer, ',' :: rest =>
      some ⟨.value false, .items (value :: done) :: outer, rest⟩
    | .items done :: outer, ']' :: rest =>
      some ⟨.continuation (.array (value :: done).reverse), outer, rest⟩
    | .members done name :: outer, ',' :: rest =>
      some ⟨.name ((name, value) :: done) false, outer, rest⟩
    | .members done name :: outer, '\x7d' :: rest =>
      some ⟨.continuation (.object ((name, value) :: done).reverse), outer, rest⟩
    | _, _ => none

/-- Reads until one value is complete and the text is used up, in at most a number of steps. -/
def Reading.run (limit : Nat) : Nat → Reading → Option Json
  | 0, _ => none
  | steps + 1, state =>
    match state.expecting, state.opened, skipSpace state.text with
    | .continuation value, [], [] => some value
    | _, _, _ => (state.step limit).bind (run limit steps)

/-- The deepest nesting that texts from outside may have. -/
def nestingLimit : Nat := 127

/-- The tree of a JSON text nested at most `limit` deep. -/
def parseWithin (limit : Nat) (text : List Char) : Option Json :=
  Reading.run limit (text.length + 2) ⟨.value false, [], text⟩

/-- The tree of a JSON text. -/
def parse (text : List Char) : Option Json :=
  parseWithin nestingLimit text

end Reshape.Json
