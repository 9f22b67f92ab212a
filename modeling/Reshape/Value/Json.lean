import Reshape.Json.Reader
import Reshape.Json.Writer
import Reshape.Text.Quoted
import Reshape.Value.Basic

/-!
Values and JSON: the value that a JSON tree denotes, the tree that a value is written as, and the
texts made from it. Octets are written as the text they hold, and the two markers as null.
-/

namespace Reshape.Value

mutual

/-- The value that a JSON tree denotes; of several members of one name the last one counts. -/
def ofJson : Json → Value
  | .null => .null
  | .bool value => .bool value
  | .integer value =>
    if value < 0x8000000000000000 then .int (Int64.ofInt value)
    else .uint (UInt64.ofNat value.toNat)
  | .float value => .float value
  | .string text => .string text
  | .array items => .array (ofItems items)
  | .object members => .object (Fields.ofList (ofMembers members))

/-- The values of the items of an array. -/
def ofItems : List Json → List Value
  | [] => []
  | item :: rest => ofJson item :: ofItems rest

/-- The values of the members of an object, under their names. -/
def ofMembers : List (String × Json) → List (String × Value)
  | [] => []
  | (name, value) :: rest => (name, ofJson value) :: ofMembers rest

end

mutual

/-- The JSON tree of a value. -/
def toJson : Value → Json
  | .null | .delete | .nothing => .null
  | .bool value => .bool value
  | .int value => .integer value.toInt
  | .uint value => .integer value.toNat
  | .float value => if value.isFinite then .float value else .null
  | .string text => .string text
  | .bytes octets => .string (Utf8.toText octets)
  | .array items => .array (toItems items)
  | .object fields => .object (toMembers fields)

/-- The JSON trees of the items of an array. -/
def toItems : List Value → List Json
  | [] => []
  | item :: rest => toJson item :: toItems rest

/-- The JSON trees of fields, under their names. -/
def toMembers : List (String × Value) → List (String × Json)
  | [] => []
  | (name, value) :: rest => (name, toJson value) :: toMembers rest

end

/-- The value that a JSON text denotes. -/
def parseJson? (text : String) : Option Value :=
  (Json.parse text.toList).map ofJson

/-- The value that octets denote as a JSON text. -/
def parseJsonOctets? (octets : Bytes) : Option Value := do
  let text ← Utf8.decode? octets
  return ofJson (← Json.parse text)

/-- The compact JSON text of a value. -/
def compact (value : Value) : String :=
  value.toJson.compact

/-- The JSON text of a value over several lines, indented by two spaces. -/
def pretty (value : Value) : String :=
  value.toJson.pretty "  "

/-- The text of a value: strings and octets as they are, all else as compact JSON. -/
def display : Value → String
  | .string text => text
  | .bytes octets => Utf8.toText octets
  | value => value.compact

/-- The octets of a value as the content of a message: strings and octets as they are, all else as
compact JSON. -/
def octets : Value → Bytes
  | .string text => Utf8.ofText text
  | .bytes octets => octets
  | value => Utf8.ofText value.compact

/-- The longest preview of a value, in code points. -/
def previewLength : Nat := 64

/-- A short text of a value for messages: strings are quoted, and what is too long is cut. -/
def preview (value : Value) : String :=
  let text := match value with
    | .string text => Text.quoted text.toList
    | value => value.display.toList
  if previewLength < text.length then
    String.ofList (text.take (previewLength - 3)) ++ "..."
  else String.ofList text

end Reshape.Value
