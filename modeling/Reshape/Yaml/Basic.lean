import Reshape.Json.Writer
import Reshape.Number.Numeral

/-!
YAML documents as trees of nodes, and what the nodes denote. A reader that knows what it expects
asks a node for a text, a truth value, a number or its parts; any scalar serves as a text. Without
such an expectation the spelling of a plain scalar decides.
-/

namespace Reshape

/-- A YAML node. -/
inductive Yaml where
  /-- A text, and whether it stands without quotes and not as a block. -/
  | scalar (text : String) (isPlain : Bool)
  | sequence (items : List Yaml)
  | mapping (entries : List (Yaml × Yaml))
  deriving Repr

/-- What a YAML node denotes. -/
inductive Datum where
  | null
  | bool (value : Bool)
  | integer (value : Int)
  | float (value : Binary64)
  | text (content : String)
  | list (items : List Datum)
  | table (entries : List (Datum × Datum))
  deriving Repr

namespace Yaml

/-- The node that stands where nothing is written. -/
def empty : Yaml := .scalar "" true

/-- The spellings of null. -/
def isNullText (text : String) : Bool :=
  ["", "null", "Null", "NULL", "~"].contains text

/-- The truth value that a text spells. -/
def truthOf? (text : String) : Option Bool :=
  if ["true", "True", "TRUE"].contains text then some true
  else if ["false", "False", "FALSE"].contains text then some false
  else none

/-- The value of a digit in a base up to 16. -/
def digit? (base : Nat) (c : Char) : Option Nat :=
  let value :=
    if c.isDigit then c.toNat - '0'.toNat
    else if 'a' ≤ c ∧ c ≤ 'f' then c.toNat - 'a'.toNat + 10
    else if 'A' ≤ c ∧ c ≤ 'F' then c.toNat - 'A'.toNat + 10
    else base
  if value < base then some value else none

/-- The number that one or more digits write in a base. -/
def digits? (base : Nat) (digits : List Char) : Option Nat :=
  if digits.isEmpty then none
  else digits.foldlM (fun value c => (digit? base c).map (value * base + ·)) 0

/-- The number that a text without sign writes. A further digit behind a leading zero makes it no
number. -/
def magnitude? : List Char → Option Nat
  | '0' :: 'x' :: digits => digits? 16 digits
  | '0' :: 'o' :: digits => digits? 8 digits
  | '0' :: 'b' :: digits => digits? 2 digits
  | '0' :: _ :: _ => none
  | digits => digits? 10 digits

/-- The integer that a text writes. -/
def whole? : List Char → Option Int
  | '-' :: rest => (magnitude? rest).map fun n => -(n : Int)
  | '+' :: rest => (magnitude? rest).map Int.ofNat
  | text => (magnitude? text).map Int.ofNat

/-- Whether a text is made of digits that start with a needless zero, perhaps behind a sign. -/
def isPadded (text : List Char) : Bool :=
  match (Numeral.signed text).2 with
  | '0' :: rest@(_ :: _) => rest.all Char.isDigit
  | _ => false

/-- The floating-point number that a text writes or names. -/
def float? (text : List Char) : Option Binary64 :=
  let (isSigned, rest) := match text with
    | '+' :: rest => (true, rest)
    | text => (false, text)
  let name := String.ofList rest
  if [".inf", ".Inf", ".INF"].contains name then some (.infinity false)
  else if !isSigned && ["-.inf", "-.Inf", "-.INF"].contains name then some (.infinity true)
  else if !isSigned && [".nan", ".NaN", ".NAN"].contains name then some .nan
  else if isPadded text || (isSigned && rest.head?.any fun c => c == '+' || c == '-') then none
  else (Numeral.readBinary64? rest).filter Binary64.isFinite

/-- What a plain scalar denotes. An integer beyond 64 bits denotes nothing, unless it is so long
that it is read as a floating-point number. -/
def plainDatum? (text : String) : Option Datum :=
  let letters := text.toList
  let other := match float? letters with
    | some x => Datum.float x
    | none => .text text
  if isNullText text then some .null
  else match truthOf? text, whole? letters with
    | some value, _ => some (.bool value)
    | none, none => some other
    | none, some n =>
      if -0x8000000000000000 ≤ n ∧ n < 0x10000000000000000 then some (.integer n)
      else if -0x80000000000000000000000000000000 ≤ n ∧
          n < 0x100000000000000000000000000000000 then none
      else some other

/-- Whether a node is null. -/
def isNull : Yaml → Bool
  | .scalar text true => isNullText text
  | _ => false

/-- The text of a scalar, however it is written. -/
def text? : Yaml → Option String
  | .scalar text _ => some text
  | _ => none

/-- The truth value that a plain scalar spells. -/
def truth? : Yaml → Option Bool
  | .scalar text true => truthOf? text
  | _ => none

/-- The number below 2 to the 64th that a plain scalar writes. -/
def natural? : Yaml → Option Nat
  | .scalar text true =>
    (whole? text.toList).bind fun n => if 0 ≤ n ∧ n < 0x10000000000000000 then some n.toNat else none
  | _ => none

/-- The items of a sequence; where nothing is written there are none. -/
def items? : Yaml → Option (List Yaml)
  | .sequence items => some items
  | .scalar "" true => some []
  | _ => none

/-- The entries of a mapping under the texts of their keys; where nothing is written there are
none. -/
def members? : Yaml → Option (List (String × Yaml))
  | .mapping entries => entries.mapM fun (key, value) => (text? key).map (·, value)
  | .scalar "" true => some []
  | _ => none

/-- The value under a name among members, if there is one; two are too many. -/
def only? (name : String) (members : List (String × Yaml)) : Option (Option Yaml) :=
  match members.filter fun (other, _) => other == name with
  | [] => some none
  | [(_, value)] => some (some value)
  | _ => none

/-- What a member says, or something else if there is no such member. -/
def member? {α : Type} (name : String) (standard : α) (read : Yaml → Option α)
    (members : List (String × Yaml)) : Option α := do
  match ← only? name members with
  | some value => read value
  | none => return standard

/-- What a member says that has to be there. -/
def required? {α : Type} (name : String) (read : Yaml → Option α)
    (members : List (String × Yaml)) : Option α := do
  read (← (← only? name members))

/-- What a node says, if it is not null. -/
def optional? {α : Type} (read : Yaml → Option α) (node : Yaml) : Option (Option α) :=
  if node.isNull then some none else (read node).map some

mutual

/-- How many collections stand inside each other. -/
def depth : Yaml → Nat
  | .scalar .. => 0
  | .sequence items => itemsDepth items + 1
  | .mapping entries => entriesDepth entries + 1

/-- The greatest depth of a list of nodes. -/
def itemsDepth : List Yaml → Nat
  | [] => 0
  | item :: rest => max (depth item) (itemsDepth rest)

/-- The greatest depth of a list of entries. -/
def entriesDepth : List (Yaml × Yaml) → Nat
  | [] => 0
  | (key, value) :: rest => max (max (depth key) (depth value)) (entriesDepth rest)

end

end Yaml

namespace Datum

/-- Whether two keys are the same. Collections are no one's equal here. -/
def isSameKey : Datum → Datum → Bool
  | .null, .null => true
  | .bool a, .bool b => a == b
  | .integer a, .integer b => a == b
  | .float a, .float b => a.compare b == some .eq || (a.compare a == none && b.compare b == none)
  | .text a, .text b => a == b
  | _, _ => false

/-- The name that a key has in JSON. -/
def name? : Datum → Option String
  | .text content => some content
  | .bool value => some (if value then "true" else "false")
  | .integer value => some (toString value)
  | .float value => if value.isFinite then some (Json.writeFloat value) else none
  | _ => none

mutual

/-- The datum that a JSON text corresponds to. -/
def ofJson : Json → Datum
  | .null => .null
  | .bool value => .bool value
  | .integer value => .integer value
  | .float value => .float value
  | .string content => .text content
  | .array items => .list (ofJsonItems items)
  | .object members => .table (ofJsonMembers members)

/-- The data that a list of JSON texts corresponds to. -/
def ofJsonItems : List Json → List Datum
  | [] => []
  | item :: rest => ofJson item :: ofJsonItems rest

/-- The entries that the members of a JSON object correspond to. -/
def ofJsonMembers : List (String × Json) → List (Datum × Datum)
  | [] => []
  | (name, value) :: rest => (.text name, ofJson value) :: ofJsonMembers rest

end

mutual

/-- What a node denotes. The keys of a mapping have to differ. -/
def ofYaml? : Yaml → Option Datum
  | .scalar content isPlain =>
    if isPlain then Yaml.plainDatum? content else some (.text content)
  | .sequence items => (ofItems? items).map .list
  | .mapping entries => (ofEntries? entries).map .table

/-- What the nodes of a list denote. -/
def ofItems? : List Yaml → Option (List Datum)
  | [] => some []
  | item :: rest => do return (← ofYaml? item) :: (← ofItems? rest)

/-- What the entries of a list denote, no key being one of a later entry. -/
def ofEntries? : List (Yaml × Yaml) → Option (List (Datum × Datum))
  | [] => some []
  | (key, value) :: rest => do
    let key ← ofYaml? key
    let value ← ofYaml? value
    let rest ← ofEntries? rest
    if rest.any fun (other, _) => key.isSameKey other then none
    return (key, value) :: rest

end

mutual

/-- The JSON text that a datum corresponds to: keys become names, if they have one. -/
def toJson? : Datum → Option Json
  | .null => some .null
  | .bool value => some (.bool value)
  | .integer value => some (.integer value)
  | .float value => some (if value.isFinite then .float value else .null)
  | .text content => some (.string content)
  | .list items => (toItems? items).map .array
  | .table entries => (toMembers? entries).map .object

/-- The JSON texts of a list. -/
def toItems? : List Datum → Option (List Json)
  | [] => some []
  | item :: rest => do return (← toJson? item) :: (← toItems? rest)

/-- The members of a JSON object that entries correspond to. -/
def toMembers? : List (Datum × Datum) → Option (List (String × Json))
  | [] => some []
  | (key, value) :: rest => do
    return (← key.name?, ← toJson? value) :: (← toMembers? rest)

end

end Datum

end Reshape
