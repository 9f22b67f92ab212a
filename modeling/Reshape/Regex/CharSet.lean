import Reshape.Text.Blank
import Reshape.Text.Tables.Casing
import Reshape.Text.Tables.Category
import Reshape.Text.Tables.Clusters
import Reshape.Text.Tables.Letters

/-!
Sets of code points, as patterns write them: ranges, properties by name, and what is made of them by
union, intersection, difference and complement, with or without regard to case.
-/

namespace Reshape.Regex

/-- A property of code points. -/
inductive Property where
  | any
  | ascii
  | assigned
  | alphabetic
  | upperCase
  | lowerCase
  | cased
  | caseIgnorable
  | space
  | word
  | pictograph
  /-- The general category is one of those with these tags. -/
  | category (tags : List Nat)
  /-- The code point has no category. -/
  | unassigned
  | script (tag : Nat)
  deriving DecidableEq, Repr

namespace Property

/-- Whether a code point has a property. -/
def holds (property : Property) (c : Char) : Bool :=
  match property with
  | .any => true
  | .ascii => c.toNat < 128
  | .assigned => Category.table.has c.toNat
  | .alphabetic => Letters.alphabetic.has c.toNat
  | .upperCase => Casing.upperCase.has c.toNat
  | .lowerCase => Casing.lowerCase.has c.toNat
  | .cased => Casing.cased.has c.toNat
  | .caseIgnorable => Casing.ignorable.has c.toNat
  | .space => Text.isBlank c
  | .word => Letters.word.has c.toNat
  | .pictograph => Clusters.pictographs.has c.toNat
  | .category tags =>
    match Category.table.tag? c.toNat with
    | some tag => tags.contains tag
    | none => false
  | .unassigned => !Category.table.has c.toNat
  | .script tag => Script.table.tag? c.toNat == some tag

/-- How many ranges all code points make, taken apart by the octets that they are written in,
about. -/
def wholeCount : Nat := 14

/-- How many ranges of code points a property is made of, about. -/
def rangeCount : Property → Nat
  | .any => wholeCount
  | .ascii => 1
  | .assigned | .unassigned => Category.table.size
  | .alphabetic => Letters.alphabetic.size
  | .upperCase => Casing.upperCase.size
  | .lowerCase => Casing.lowerCase.size
  | .cased => Casing.cased.size
  | .caseIgnorable => Casing.ignorable.size
  | .space => 10
  | .word => Letters.word.size
  | .pictograph => Clusters.pictographs.size
  | .category tags => Category.table.countP fun run => tags.contains run.tag
  | .script tag => Script.table.countP fun run => run.tag == tag

/-- The decimal digits. -/
def digit : Property := .category [8]

/-- The long names of the categories and of their groups, each with the short names it stands
for. -/
def categoryNames : List (List String × List String) :=
  [(["lu", "uppercaseletter"], ["Lu"]), (["ll", "lowercaseletter"], ["Ll"]),
    (["lt", "titlecaseletter"], ["Lt"]), (["lc", "casedletter"], ["Lu", "Ll", "Lt"]),
    (["lm", "modifierletter"], ["Lm"]), (["lo", "otherletter"], ["Lo"]),
    (["l", "letter"], ["Lu", "Ll", "Lt", "Lm", "Lo"]),
    (["mn", "nonspacingmark"], ["Mn"]), (["mc", "spacingmark"], ["Mc"]),
    (["me", "enclosingmark"], ["Me"]), (["m", "mark", "combiningmark"], ["Mn", "Mc", "Me"]),
    (["nd", "decimalnumber", "digit"], ["Nd"]), (["nl", "letternumber"], ["Nl"]),
    (["no", "othernumber"], ["No"]), (["n", "number"], ["Nd", "Nl", "No"]),
    (["pc", "connectorpunctuation"], ["Pc"]), (["pd", "dashpunctuation"], ["Pd"]),
    (["ps", "openpunctuation"], ["Ps"]), (["pe", "closepunctuation"], ["Pe"]),
    (["pi", "initialpunctuation"], ["Pi"]), (["pf", "finalpunctuation"], ["Pf"]),
    (["po", "otherpunctuation"], ["Po"]),
    (["p", "punctuation", "punct"], ["Pc", "Pd", "Ps", "Pe", "Pi", "Pf", "Po"]),
    (["sm", "mathsymbol"], ["Sm"]), (["sc", "currencysymbol"], ["Sc"]),
    (["sk", "modifiersymbol"], ["Sk"]), (["so", "othersymbol"], ["So"]),
    (["s", "symbol"], ["Sm", "Sc", "Sk", "So"]),
    (["zs", "spaceseparator"], ["Zs"]), (["zl", "lineseparator"], ["Zl"]),
    (["zp", "paragraphseparator"], ["Zp"]), (["z", "separator"], ["Zs", "Zl", "Zp"]),
    (["cc", "control", "cntrl"], ["Cc"]), (["cf", "format"], ["Cf"]),
    (["cs", "surrogate"], ["Cs"]), (["co", "privateuse"], ["Co"])]

/-- A name in the form in which names are compared: without case, spaces, hyphens and underscores,
and without a leading "is". -/
def loose (name : String) : String :=
  let kept := (name.toList.filter fun c => c != ' ' && c != '-' && c != '_').map Char.toLower
  match kept with
  | 'i' :: 's' :: rest => if rest.isEmpty then "is" else String.ofList rest
  | kept => String.ofList kept

/-- The category of a loose name. -/
def category? (name : String) : Option Property :=
  if name = "cn" ∨ name = "unassigned" then some .unassigned
  else if name = "any" then some .any
  else if name = "assigned" then some .assigned
  else if name = "ascii" then some .ascii
  else
    (categoryNames.find? fun entry => entry.1.contains name).map fun entry =>
      .category (entry.2.map fun short => Category.names.idxOf short)

/-- The script of a loose name. -/
def script? (name : String) : Option Property :=
  (Script.names.findIdx? fun entry => loose entry.1 == name || loose entry.2 == name).map .script

/-- The other property of a loose name. -/
def other? (name : String) : Option Property :=
  match name with
  | "alphabetic" | "alpha" => some .alphabetic
  | "uppercase" | "upper" => some .upperCase
  | "lowercase" | "lower" => some .lowerCase
  | "cased" => some .cased
  | "caseignorable" | "ci" => some .caseIgnorable
  | "whitespace" | "wspace" | "space" => some .space
  | "extendedpictographic" | "extpict" => some .pictograph
  | _ => none

/-- The property of a name. -/
def named? (name : String) : Option Property :=
  let name := loose name
  (other? name).or ((category? name).or (script? name))

/-- The property that a name has a value for. -/
def valued? (name value : String) : Option Property :=
  let value := loose value
  match loose name with
  | "generalcategory" | "gc" => category? value
  | "script" | "sc" | "scriptextensions" | "scx" => script? value
  | _ => none

end Property

/-- A set of code points. -/
inductive CharSet where
  /-- The code points between two, both included. -/
  | range (first last : Char)
  | property (property : Property)
  | union (sets : List CharSet)
  | inter (left right : CharSet)
  | difference (left right : CharSet)
  | symmetricDifference (left right : CharSet)
  | complement (set : CharSet)
  /-- The code points that differ from a member in case only, among the basic letters or all. -/
  | folded (isBasic : Bool) (set : CharSet)
  deriving Repr

/-- The simple folding of a code point. -/
def foldChar (c : Char) : Char :=
  match Casing.folded.images? c.toNat with
  | some [image] => Char.ofNat image
  | _ => c

/-- The code points that differ from a code point in case only, itself included. -/
def variants (c : Char) : List Char :=
  let image := foldChar c
  let sources := Casing.folded.toList.filterMap fun (source, images) =>
    if images = [image.toNat] then some (Char.ofNat source) else none
  image :: sources

namespace CharSet

mutual

/-- Whether a set has a code point. -/
def has : CharSet → Char → Bool
  | .range first last, c => first ≤ c && c ≤ last
  | .property kind, c => kind.holds c
  | .union sets, c => anyHas sets c
  | .inter left right, c => left.has c && right.has c
  | .difference left right, c => left.has c && !right.has c
  | .symmetricDifference left right, c => left.has c != right.has c
  | .complement set, c => !set.has c
  | .folded isBasic set, c =>
    if isBasic then set.has c || set.has c.toLower || set.has c.toUpper
    else (variants c).any set.has

/-- Whether one of several sets has a code point. -/
def anyHas : List CharSet → Char → Bool
  | [], _ => false
  | set :: rest, c => set.has c || anyHas rest c

end

mutual

/-- How many ranges of code points a set is made of, about. -/
def rangeCount : CharSet → Nat
  | .range .. => 1
  | .property kind => kind.rangeCount
  | .union sets => rangeCounts sets
  | .inter left right | .difference left right | .symmetricDifference left right =>
    left.rangeCount + right.rangeCount
  | .complement set => set.rangeCount + Property.wholeCount
  | .folded _ set => set.rangeCount

/-- How many ranges several sets are made of, about. -/
def rangeCounts : List CharSet → Nat
  | [] => 0
  | set :: rest => set.rangeCount + rangeCounts rest

end

/-- The set of one code point. -/
def single (c : Char) : CharSet := .range c c

/-- The set of the code points between pairs of them. -/
def ranges (pairs : List (Char × Char)) : CharSet :=
  .union (pairs.map fun (first, last) => .range first last)

/-- The basic digits. -/
def basicDigit : CharSet := .range '0' '9'

/-- The basic code points of words. -/
def basicWord : CharSet := ranges [('0', '9'), ('A', 'Z'), ('_', '_'), ('a', 'z')]

/-- The basic blanks. -/
def basicSpace : CharSet := ranges [('\t', '\r'), (' ', ' ')]

/-- The class of a name between colons. -/
def bracketed? (name : String) : Option CharSet :=
  match name with
  | "alnum" => some (ranges [('0', '9'), ('A', 'Z'), ('a', 'z')])
  | "alpha" => some (ranges [('A', 'Z'), ('a', 'z')])
  | "ascii" => some (.range '\x00' '\x7F')
  | "blank" => some (ranges [('\t', '\t'), (' ', ' ')])
  | "cntrl" => some (ranges [('\x00', '\x1F'), ('\x7F', '\x7F')])
  | "digit" => some basicDigit
  | "graph" => some (.range '!' '~')
  | "lower" => some (.range 'a' 'z')
  | "print" => some (.range ' ' '~')
  | "punct" => some (ranges [('!', '/'), (':', '@'), ('[', '\x60'), ('\x7b', '~')])
  | "space" => some basicSpace
  | "upper" => some (.range 'A' 'Z')
  | "word" => some basicWord
  | "xdigit" => some (ranges [('0', '9'), ('A', 'F'), ('a', 'f')])
  | _ => none

end CharSet

end Reshape.Regex
