/-!
Properties of code points, as ascending runs that each carry a tag. A table is written as text, two
or three numerals to a run in base 36, and a lookup halves the runs.
-/

namespace Reshape

/-- The code points from `first` to `last`, which share a tag. -/
structure Run where
  /-- The lowest code point. -/
  first : Nat
  /-- The highest code point. -/
  last : Nat
  /-- What the table says of them. -/
  tag : Nat
  deriving DecidableEq, Repr

/-- Runs in ascending order, none overlapping another. -/
abbrev Table := Array Run

namespace Table

/-- The tag at a code point, looked for in the runs from `low` up to but not including `high`. -/
def search (table : Table) (code : Nat) : Nat → Nat → Nat → Option Nat
  | 0, _, _ => none
  | steps + 1, low, high =>
    if low < high then
      let middle := (low + high) / 2
      match table[middle]? with
      | none => none
      | some run =>
        if code < run.first then search table code steps low middle
        else if run.last < code then search table code steps (middle + 1) high
        else some run.tag
    else none

/-- The tag at a code point, if a run holds it. -/
def tag? (table : Table) (code : Nat) : Option Nat :=
  search table code (table.size.log2 + 2) 0 table.size

/-- Whether a run holds a code point. -/
def has (table : Table) (code : Nat) : Bool :=
  (table.tag? code).isSome

/-- The value of a digit in base 36, written in lower case. -/
def digit (c : Char) : Nat :=
  if c.isDigit then c.toNat - '0'.toNat else c.toNat - 'a'.toNat + 10

/-- The numerals of a text, which single spaces separate. -/
def numerals (text : String) : List Nat :=
  let step := fun (done, current) c =>
    if c == ' ' then (current :: done, 0) else (done, current * 36 + digit c)
  let (done, current) := text.toList.foldl step (([] : List Nat), 0)
  (current :: done).reverse

/-- Runs from pairs of a gap and a length, all with tag zero. -/
def ofPairs (table : Table) (start : Nat) : List Nat → Table
  | gap :: length :: rest =>
    let first := start + gap
    ofPairs (table.push ⟨first, first + length - 1, 0⟩) (first + length) rest
  | _ => table

/-- Runs from triples of a gap, a length and a tag. -/
def ofTriples (table : Table) (start : Nat) : List Nat → Table
  | gap :: length :: tag :: rest =>
    let first := start + gap
    ofTriples (table.push ⟨first, first + length - 1, tag⟩) (first + length) rest
  | _ => table

/-- The set of code points that a text of gaps and lengths writes. -/
def ofText (text : String) : Table :=
  ofPairs #[] 0 (numerals text)

/-- The classification that a text of gaps, lengths and tags writes. -/
def ofTaggedText (text : String) : Table :=
  ofTriples #[] 0 (numerals text)

end Table

/-- What code points are mapped to: an ascending list of sources, each with the code points it
becomes. -/
abbrev Replacements := Array (Nat × List Nat)

namespace Replacements

/-- The images of a code point, looked for among the sources from `low` up to `high`. -/
def search (table : Replacements) (code : Nat) : Nat → Nat → Nat → Option (List Nat)
  | 0, _, _ => none
  | steps + 1, low, high =>
    if low < high then
      let middle := (low + high) / 2
      match table[middle]? with
      | none => none
      | some (source, images) =>
        if code < source then search table code steps low middle
        else if source < code then search table code steps (middle + 1) high
        else some images
    else none

/-- The images of a code point, if the table names it. -/
def images? (table : Replacements) (code : Nat) : Option (List Nat) :=
  search table code (table.size.log2 + 2) 0 table.size

/-- The sources and images that counted groups write: a gap, a count, and that many images. -/
def ofGroups (fuel : Nat) (table : Replacements) (start : Nat) (numerals : List Nat) :
    Replacements :=
  match fuel, numerals with
  | fuel + 1, gap :: count :: rest =>
    ofGroups fuel (table.push (start + gap, rest.take count)) (start + gap) (rest.drop count)
  | _, _ => table

/-- The replacements that a text of counted groups writes. -/
def ofText (text : String) : Replacements :=
  let numerals := Table.numerals text
  ofGroups numerals.length #[] 0 numerals

end Replacements

end Reshape
