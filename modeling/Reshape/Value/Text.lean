import Reshape.Text.Blank
import Reshape.Text.Casing
import Reshape.Text.Cluster
import Reshape.Text.Search
import Reshape.Value.Basic

/-!
Operations on texts. A string is worked on by code points and a sequence of octets by octets, and
each operation gives a text of the kind it was given. Needles come as octets; for a string they are
read as the text they hold.
-/

namespace Reshape.Text

/-- The octets of a text. -/
def toOctets : Text → Bytes
  | .chars text => Utf8.encode text
  | .octets data => data

/-- The value that holds a text. -/
def toValue : Text → Value
  | .chars text => .string (String.ofList text)
  | .octets data => .bytes data

/-- The text as a string, U+FFFD standing for what is ill-formed. -/
def lossy : Text → String
  | .chars text => String.ofList text
  | .octets data => Utf8.toText data

/-- The number of code points, or of octets. -/
def length : Text → Nat
  | .chars text => text.length
  | .octets data => data.length

/-- Whether the text has no code point or octet. -/
def isEmpty : Text → Bool
  | .chars text => text.isEmpty
  | .octets data => data.isEmpty

/-- Whether a needle occurs in the text. -/
def contains (text : Text) (needle : Bytes) : Bool :=
  match text with
  | .chars text => Search.occurs (Utf8.decodeLossy needle) text
  | .octets data => Search.occurs needle data

/-- Whether the text starts with a needle. -/
def startsWith (text : Text) (needle : Bytes) : Bool :=
  match text with
  | .chars text => Search.startsWith (Utf8.decodeLossy needle) text
  | .octets data => Search.startsWith needle data

/-- Whether the text ends with a needle. -/
def endsWith (text : Text) (needle : Bytes) : Bool :=
  match text with
  | .chars text => Search.endsWith (Utf8.decodeLossy needle) text
  | .octets data => Search.endsWith needle data

/-- The text in upper case; of octets only the basic letters change. -/
def toUpper : Text → Text
  | .chars text => .chars (upper text)
  | .octets data => .octets (data.map upperOctet)

/-- The text in lower case; of octets only the basic letters change. -/
def toLower : Text → Text
  | .chars text => .chars (lower text)
  | .octets data => .octets (data.map lowerOctet)

/-- The text without blanks at its ends. -/
def trim : Text → Text
  | .chars text => .chars (trimmed isBlank text)
  | .octets data => .octets (trimmed isBlankOctet data)

/-- The text with its first code point or octet in upper case. -/
def capitalize : Text → Text
  | .chars text => .chars (capitalized text)
  | .octets [] => .octets []
  | .octets (first :: rest) => .octets (upperOctet first :: rest)

/-- The code points of a string with another text before, between and after them. -/
def interleaved (between text : List Char) : List Char :=
  between ++ text.flatMap fun c => c :: between

/-- The text with every occurrence of a needle replaced. The empty needle stands between any two
code points of a string and at its ends, and nowhere in octets. -/
def replaceAll (text : Text) (needle replacement : Bytes) : Text :=
  match text with
  | .chars text =>
    let needle := Utf8.decodeLossy needle
    let replacement := Utf8.decodeLossy replacement
    if needle.isEmpty then .chars (interleaved replacement text)
    else .chars (Search.replaced needle replacement text)
  | .octets data => .octets (Search.replaced needle replacement data)

/-- The pieces of the text between the occurrences of a delimiter. An empty delimiter cuts between
any two code points or octets. -/
def split (text : Text) (delimiter : Bytes) : List Text :=
  match text with
  | .chars text =>
    let delimiter := Utf8.decodeLossy delimiter
    if delimiter.isEmpty then text.map fun c => .chars [c]
    else (Search.pieces delimiter text).map .chars
  | .octets data =>
    if delimiter.isEmpty then data.map fun b => .octets [b]
    else (Search.pieces delimiter data).map .octets

/-- The clusters of a string, or the octets, in reverse order. -/
def reverse : Text → Text
  | .chars text => .chars (clusters text).reverse.flatten
  | .octets data => .octets data.reverse

end Reshape.Text

namespace Reshape

/-- A stretch of a sequence: from `start` up to but not including `stop`. -/
structure Stretch where
  /-- The first position. -/
  start : Nat
  /-- The position after the last one. -/
  stop : Nat
  deriving DecidableEq, Repr

namespace Stretch

/-- The position that an index names in a sequence: a negative one counts from the end, and both
ends bound it. -/
def position (length : Nat) (index : Int) : Nat :=
  if index < 0 then length - index.natAbs else min index.toNat length

/-- The stretch between two indices, the upper one being the end of the sequence if it is missing.
Indices that cross give the stretch they would make as an error. -/
def between (length : Nat) (low : Int) (high : Option Int) : Except Stretch Stretch :=
  let start := position length low
  let stop := (high.map (position length)).getD length
  if start ≤ stop then .ok ⟨start, stop⟩ else .error ⟨start, stop⟩

/-- The items of a sequence in a stretch. -/
def items {α : Type} (stretch : Stretch) (sequence : List α) : List α :=
  (sequence.drop stretch.start).take (stretch.stop - stretch.start)

end Stretch

/-- The part of a text between two indices. -/
def Text.slice (text : Text) (low : Int) (high : Option Int) : Except Stretch Text :=
  (Stretch.between text.length low high).map fun stretch =>
    match text with
    | .chars text => .chars (stretch.items text)
    | .octets data => .octets (stretch.items data)

end Reshape
