import Reshape.Json.Reader
import Reshape.Number.Numeral
import Reshape.Regex.CharSet

/-!
Patterns: the tree of a regular expression, and reading it from text. There is neither look-around
nor reference to an earlier group, so that a pattern denotes a regular language.
-/

namespace Reshape

/-- A place that a pattern asks for. -/
inductive Regex.Look where
  | start
  | stop
  | lineStart
  | lineStop
  /-- The start and the stop of a line that may end with a carriage return. -/
  | returnLineStart
  | returnLineStop
  /-- Between the code point of a word and what is none. -/
  | boundary (isBasic : Bool)
  | noBoundary (isBasic : Bool)
  | wordStart (isBasic : Bool)
  | wordStop (isBasic : Bool)
  /-- Not after, or not before, the code point of a word. -/
  | halfStart (isBasic : Bool)
  | halfStop (isBasic : Bool)
  deriving DecidableEq, Repr

/-- The tree of a regular expression. -/
inductive Regex where
  | empty
  /-- A code point of a set. -/
  | oneOf (set : Regex.CharSet)
  /-- Nothing, at a place. -/
  | place (look : Regex.Look)
  | both (first second : Regex)
  /-- The first where both match. -/
  | either (first second : Regex)
  /-- A group that is remembered. -/
  | group (index : Nat) (inner : Regex)
  /-- At least and at most as often, and whether as often as possible. -/
  | repeated (inner : Regex) (least : Nat) (most : Option Nat) (isGreedy : Bool)
  deriving Repr

namespace Regex

/-- What is switched on while a pattern is read. -/
structure Flags where
  ignoresCase : Bool
  hasLines : Bool
  dotTakesAll : Bool
  isSwapped : Bool
  isUnicode : Bool
  isSpaced : Bool
  hasReturns : Bool

/-- The flags at the start of a pattern. -/
def Flags.initial : Flags := ⟨false, false, false, false, true, false, false⟩

/-- The flags with the one of a letter switched. -/
def Flags.switch? (flags : Flags) (letter : Char) (isOn : Bool) : Option Flags :=
  match letter with
  | 'i' => some { flags with ignoresCase := isOn }
  | 'm' => some { flags with hasLines := isOn }
  | 's' => some { flags with dotTakesAll := isOn }
  | 'U' => some { flags with isSwapped := isOn }
  | 'u' => some { flags with isUnicode := isOn }
  | 'x' => some { flags with isSpaced := isOn }
  | 'R' => some { flags with hasReturns := isOn }
  | _ => none

/-- The set with the variants of its members, if case is ignored. -/
def Flags.fold (flags : Flags) (set : CharSet) : CharSet :=
  if flags.ignoresCase then .folded (!flags.isUnicode) set else set

/-- The set or its complement. -/
def complementIf (isNegated : Bool) (set : CharSet) : CharSet :=
  if isNegated then .complement set else set

/-- The set of a letter after a backslash, for the letters that name one. -/
def letterSet? (isUnicode : Bool) (letter : Char) : Option CharSet :=
  let pick := fun (property : Property) (basic : CharSet) =>
    if isUnicode then .property property else basic
  match letter.toLower with
  | 'd' => some (complementIf letter.isUpper (pick .digit .basicDigit))
  | 's' => some (complementIf letter.isUpper (pick .space .basicSpace))
  | 'w' => some (complementIf letter.isUpper (pick .word .basicWord))
  | _ => none

/-- The number that hexadecimal digits write. -/
def hexadecimal? (digits : List Char) : Option Nat :=
  if digits.isEmpty then none
  else digits.foldlM (fun n c => (Json.hexDigit? c).map (n * 16 + ·)) 0

/-- The code point of a number. -/
def charOf? (n : Nat) : Option Char :=
  if n.isValidChar then some (Char.ofNat n) else none

/-- The code point that hexadecimal digits write, as many as are asked for or in braces, and what
follows. -/
def hexadecimalEscape? (count : Nat) (text : List Char) : Option (Char × List Char) :=
  match text with
  | '\x7b' :: rest =>
    let digits := rest.takeWhile (· != '\x7d')
    match rest.drop digits.length with
    | _ :: after => do return (← charOf? (← hexadecimal? digits), after)
    | [] => none
  | text =>
    if text.length < count then none
    else do return (← charOf? (← hexadecimal? (text.take count)), text.drop count)

/-- The property in the text after `\p`, whether it is negated there, and what follows. -/
def propertyEscape? (text : List Char) : Option (Property × Bool × List Char) :=
  match text with
  | '\x7b' :: rest =>
    let inner := rest.takeWhile (· != '\x7d')
    match rest.drop inner.length with
    | [] => none
    | _ :: after =>
      let (isNegated, inner) := match inner with
        | '^' :: inner => (true, inner)
        | inner => (false, inner)
      let name := inner.takeWhile fun c => c != ':' && c != '=' && c != '!'
      match inner.drop name.length with
      | [] => (Property.named? (String.ofList name)).map (·, isNegated, after)
      | '!' :: '=' :: value =>
        (Property.valued? (String.ofList name) (String.ofList value)).map (·, !isNegated, after)
      | _ :: value =>
        (Property.valued? (String.ofList name) (String.ofList value)).map (·, isNegated, after)
  | letter :: after => (Property.category? (Property.loose (toString letter))).map (·, false, after)
  | [] => none

/-- The code points with a meaning of their own. -/
def isMeta (c : Char) : Bool :=
  "\\.+*?()|[]\x7b\x7d^$#&-~".toList.contains c

/-- Whether a backslash may stand before a code point that means itself. -/
def isEscapable (c : Char) : Bool :=
  isMeta c || (c.toNat < 128 && !c.isAlphanum && c != '<' && c != '>')

/-- What a backslash introduces. -/
inductive Escape where
  /-- A code point; one written as two digits is an octet. -/
  | char (c : Char) (isOctet : Bool)
  | set (set : CharSet)
  | look (look : Look)

/-- The word boundary that a name in braces tells, and what follows. -/
def namedBoundary? (isBasic : Bool) (text : List Char) : Option (Look × List Char) :=
  let name := text.takeWhile (· != '\x7d')
  match text.drop name.length with
  | [] => none
  | _ :: after =>
    match String.ofList name with
    | "start" => some (.wordStart isBasic, after)
    | "end" => some (.wordStop isBasic, after)
    | "start-half" => some (.halfStart isBasic, after)
    | "end-half" => some (.halfStop isBasic, after)
    | _ => none

/-- What stands after a backslash, and what follows it. -/
def escape? (flags : Flags) (text : List Char) : Option (Escape × List Char) :=
  let isBasic := !flags.isUnicode
  match text with
  | [] => none
  | 'x' :: rest =>
    (hexadecimalEscape? 2 rest).map fun (c, after) => (.char c (rest.head? != some '\x7b'), after)
  | 'u' :: rest => (hexadecimalEscape? 4 rest).map fun (c, after) => (.char c false, after)
  | 'U' :: rest => (hexadecimalEscape? 8 rest).map fun (c, after) => (.char c false, after)
  | 'p' :: rest | 'P' :: rest =>
    if isBasic then none
    else (propertyEscape? rest).map fun (property, isNegated, after) =>
      -- A capital letter and a circumflex in the braces negate each other.
      let isNegated := isNegated != (text.head? == some 'P')
      (.set (complementIf isNegated (flags.fold (.property property))), after)
  | 'a' :: rest => some (.char '\x07' false, rest)
  | 'f' :: rest => some (.char '\x0c' false, rest)
  | 't' :: rest => some (.char '\t' false, rest)
  | 'n' :: rest => some (.char '\n' false, rest)
  | 'r' :: rest => some (.char '\r' false, rest)
  | 'v' :: rest => some (.char '\x0b' false, rest)
  | 'A' :: rest => some (.look .start, rest)
  | 'z' :: rest => some (.look .stop, rest)
  | 'b' :: '\x7b' :: rest =>
    match namedBoundary? isBasic rest with
    | some (look, after) => some (.look look, after)
    -- Braces that name no boundary are left to be read as a repetition.
    | none => some (.look (.boundary isBasic), '\x7b' :: rest)
  | 'b' :: rest => some (.look (.boundary isBasic), rest)
  | 'B' :: rest => some (.look (.noBoundary isBasic), rest)
  | '<' :: rest => some (.look (.wordStart isBasic), rest)
  | '>' :: rest => some (.look (.wordStop isBasic), rest)
  | c :: rest =>
    match letterSet? flags.isUnicode c with
    | some set => some (.set set, rest)
    | none => if isEscapable c then some (.char c false, rest) else none

/-- A text without the blanks and comments that it starts with, if blanks mean nothing. -/
def skipFree (flags : Flags) : Nat → List Char → List Char
  | 0, text => text
  | steps + 1, text =>
    if !flags.isSpaced then text
    else match text with
      | '#' :: rest => skipFree flags steps (rest.dropWhile (· != '\n'))
      | c :: rest => if Text.isBlank c then skipFree flags steps rest else text
      | [] => []

/-- The class between colons in brackets, and what follows. -/
def bracketed? (text : List Char) : Option (CharSet × List Char) :=
  match text with
  | '[' :: ':' :: rest =>
    let (isNegated, rest) := match rest with
      | '^' :: rest => (true, rest)
      | rest => (false, rest)
    let name := rest.takeWhile (· != ':')
    match rest.drop name.length with
    | ':' :: ']' :: after =>
      (CharSet.bracketed? (String.ofList name)).map fun set => (complementIf isNegated set, after)
    | _ => none
  | _ => none

/-- One member of a class: a code point or a set. -/
def member? (flags : Flags) (text : List Char) : Option ((Char ⊕ CharSet) × List Char) :=
  match text with
  | [] => none
  | '\\' :: rest =>
    match escape? flags rest with
    | some (.char c isOctet, after) =>
      if isOctet && !flags.isUnicode && 127 < c.toNat then none else some (.inl c, after)
    | some (.set set, after) => some (.inr set, after)
    | _ => none
  | c :: rest => if !flags.isUnicode && 127 < c.toNat then none else some (.inl c, rest)

/-- The members or the range at the start of a text in a class, and what follows. -/
def range? (flags : Flags) (text : List Char) : Option (CharSet × List Char) := do
  let skip := fun (text : List Char) => skipFree flags text.length text
  let (first, after) ← member? flags text
  let whole := match first with
    | .inl c => CharSet.single c
    | .inr set => set
  match skip after with
  | '-' :: rest =>
    match skip rest with
    -- A hyphen before the end of the class or before another one makes no range.
    | ']' :: _ | '-' :: _ => return (whole, after)
    | rest =>
      let (last, after) ← member? flags rest
      match first, last with
      | .inl first, .inl last => if first ≤ last then some (.range first last, after) else none
      | _, _ => none
  | _ => return (whole, after)

/-- An operation between the sets of a class. -/
inductive SetOperation where
  | inter
  | difference
  | symmetricDifference

/-- The set that an operation makes of two. -/
def SetOperation.apply : SetOperation → CharSet → CharSet → CharSet
  | .inter => .inter
  | .difference => .difference
  | .symmetricDifference => .symmetricDifference

/-- A class of which a beginning is read: what stands before the last operation, and the sets since
then, the last one first. -/
structure OpenClass where
  before : Option (CharSet × SetOperation)
  sets : List CharSet

/-- The set of an open class. -/
def OpenClass.close (flags : Flags) (opened : OpenClass) : CharSet :=
  let set := CharSet.union opened.sets.reverse
  match opened.before with
  | some (left, operation) => operation.apply (flags.fold left) (flags.fold set)
  | none => set

mutual

/-- The set of a class after its opening bracket, and what follows its closing one. -/
def class? (flags : Flags) : Nat → List Char → Option (CharSet × List Char)
  | 0, _ => none
  | steps + 1, text =>
    let skip := fun (text : List Char) => skipFree flags text.length text
    let text := skip text
    let (isNegated, text) := match text with
      | '^' :: rest => (true, skip rest)
      | text => (false, text)
    -- Hyphens at the start stand for themselves, and so does a closing bracket that comes first.
    let hyphens := text.takeWhile (· == '-')
    let rest := skip (text.drop hyphens.length)
    let first := hyphens.map CharSet.single
    let (first, rest) := match first, rest with
      | [], ']' :: rest => ([CharSet.single ']'], rest)
      | first, rest => (first, rest)
    match classRest? flags steps ⟨none, first⟩ rest with
    | some (set, after) => some (complementIf isNegated (flags.fold set), after)
    | none => none

/-- The set of an open class, and what follows its closing bracket. -/
def classRest? (flags : Flags) : Nat → OpenClass → List Char → Option (CharSet × List Char)
  | 0, _, _ => none
  | steps + 1, opened, text =>
    let apply := fun (operation : SetOperation) (rest : List Char) =>
      classRest? flags steps ⟨some (opened.close flags, operation), []⟩ rest
    let push := fun (found : Option (CharSet × List Char)) =>
      match found with
      | some (set, after) =>
        classRest? flags steps { opened with sets := set :: opened.sets } after
      | none => none
    match skipFree flags text.length text with
    | [] => none
    | ']' :: rest => some (opened.close flags, rest)
    | '[' :: rest =>
      match bracketed? ('[' :: rest) with
      | some (set, after) => push (some (set, after))
      | none => push (class? flags steps rest)
    | '&' :: '&' :: rest => apply .inter rest
    | '-' :: '-' :: rest => apply .difference rest
    | '~' :: '~' :: rest => apply .symmetricDifference rest
    | text => push (range? flags text)

end

/-- Where the reading of a pattern stands. -/
structure Reader where
  rest : List Char
  /-- The number of groups opened so far. -/
  groups : Nat
  /-- The named groups. -/
  names : List (String × Nat)

/-- The flags after those that a text switches, and what follows them: a colon or a parenthesis. -/
def switches? (text : List Char) : Option ((Flags → Option Flags) × List Char) :=
  let letters := text.takeWhile fun c => c != ':' && c != ')'
  let on := letters.takeWhile (· != '-')
  let off := (letters.drop on.length).drop 1
  let isDangling := on.length < letters.length && off.isEmpty
  let all := on ++ off
  if isDangling || all.contains '-' || all.eraseDups.length != all.length then none
  else if (all.all fun letter => (Flags.initial.switch? letter true).isSome) then
    some (fun flags => do
      let flags ← on.foldlM (fun flags letter => flags.switch? letter true) flags
      off.foldlM (fun flags letter => flags.switch? letter false) flags,
      text.drop letters.length)
  else none

/-- The name of a group up to its closing angle, and what follows. -/
def groupName? (text : List Char) : Option (String × List Char) :=
  let name := text.takeWhile (· != '>')
  match text.drop name.length with
  | [] => none
  | _ :: after =>
    let isLetter := fun (c : Char) => c == '_' || Letters.alphabetic.has c.toNat
    let isRest := fun (c : Char) =>
      isLetter c || c == '.' || c == '[' || c == ']' || Property.holds (.category [8, 9, 10]) c
    match name with
    | first :: rest =>
      if isLetter first && rest.all isRest then some (String.ofList name, after) else none
    | [] => none

/-- What opens at a parenthesis. -/
inductive Opening where
  | group (name : Option String) (flags : Option (Flags → Option Flags))
  /-- Flags for what follows, and no group. -/
  | switch (flags : Flags → Option Flags)

/-- What opens after a parenthesis, and what follows. -/
def opening? (text : List Char) : Option (Opening × List Char) :=
  match text with
  | '?' :: 'P' :: '<' :: rest => (groupName? rest).map fun (name, after) =>
    (.group (some name) none, after)
  | '?' :: '<' :: '=' :: _ | '?' :: '<' :: '!' :: _ => none
  | '?' :: '<' :: rest => (groupName? rest).map fun (name, after) =>
    (.group (some name) none, after)
  | '?' :: rest =>
    match switches? rest with
    | some (flags, ':' :: after) => some (.group none (some flags), after)
    | some (flags, ')' :: after) =>
      if rest.head? == some ')' then none else some (.switch flags, after)
    | _ => none
  | rest => some (.group none none, rest)

/-- The number at the start of a text, with blanks around it, and what follows. -/
def count? (text : List Char) : Option (Nat × List Char) :=
  let text := text.dropWhile Text.isBlank
  let digits := text.takeWhile Char.isDigit
  match Numeral.natural? digits with
  | some n =>
    if n < 0x100000000 then some (n, (text.drop digits.length).dropWhile Text.isBlank) else none
  | none => none

/-- How often a repetition in braces matches, and what follows. -/
def bounds? (text : List Char) : Option (Nat × Option Nat × List Char) :=
  match count? text with
  | some (least, '\x7d' :: after) => some (least, some least, after)
  | some (least, ',' :: rest) =>
    match rest.dropWhile Text.isBlank with
    | '\x7d' :: after => some (least, none, after)
    | rest =>
      match count? rest with
      | some (most, '\x7d' :: after) =>
        if least ≤ most then some (least, some most, after) else none
      | _ => none
  | _ => none

/-- One pattern after the other, given the last one first. -/
def sequence (items : List Regex) : Regex :=
  items.foldl (fun rest item => match rest with
    | .empty => item
    | rest => .both item rest) .empty

/-- The first of several patterns, given the last one first. -/
def alternatives : List Regex → Regex
  | [] => .empty
  | last :: before => before.foldl (fun rest item => .either item rest) last

/-- A pattern that is read up to a place: the alternatives before, and the items since the last bar,
the last one first. An item that switches flags is none. -/
structure OpenGroup where
  flags : Flags
  done : List Regex
  items : List (Option Regex)

/-- The tree of an open group. -/
def OpenGroup.close (opened : OpenGroup) : Regex :=
  alternatives (sequence (opened.items.filterMap id) :: opened.done)

/-- The open group with one more item. -/
def OpenGroup.push (opened : OpenGroup) (item : Regex) : OpenGroup :=
  { opened with items := some item :: opened.items }

/-- The open group with its last item repeated, if there is one, and what follows. -/
def OpenGroup.repeat? (opened : OpenGroup) (least : Nat) (most : Option Nat) (after : List Char) :
    Option (OpenGroup × List Char) :=
  match opened.items with
  | some item :: items =>
    let (isLazy, after) := match after with
      | '?' :: after => (true, after)
      | after => (false, after)
    let isGreedy := isLazy == opened.flags.isSwapped
    some ({ opened with items := some (.repeated item least most isGreedy) :: items }, after)
  | _ => none

/-- The set of any code point but the ends of lines. -/
def dot (flags : Flags) : CharSet :=
  if flags.dotTakesAll then .property .any
  else if flags.hasReturns then .complement (.union [.single '\n', .single '\r'])
  else .complement (.single '\n')

/-- Whether a set can be used where patterns are read octet by octet: it has basic members only. -/
def isBasicSet (set : CharSet) : Bool :=
  (List.range 128).all fun n => !set.has (Char.ofNat (n + 128))

/-- The item of a set, if it can stand there. -/
def setItem? (flags : Flags) (set : CharSet) : Option Regex :=
  if flags.isUnicode || isBasicSet set then some (.oneOf set) else none

/-- The item of a code point. -/
def charItem (flags : Flags) (c : Char) : Regex :=
  if !flags.isUnicode && 127 < c.toNat then .oneOf (.single c)
  else .oneOf (flags.fold (.single c))

/-- The item that an escape makes, if it can stand there. -/
def escapeItem? (flags : Flags) : Escape → Option Regex
  | .char c isOctet =>
    if isOctet && !flags.isUnicode && 127 < c.toNat then none else some (charItem flags c)
  | .set set => setItem? flags set
  | .look look => some (.place look)

/-- The deepest nesting of groups. -/
def nestingLimit : Nat := 250

/-- Reads a group up to its closing parenthesis or the end of the text. -/
def group? : Nat → Nat → OpenGroup → Reader → Option (Regex × Reader)
  | 0, _, _, _ => none
  | steps + 1, depth, opened, reader =>
    let flags := opened.flags
    let push := fun (item : Option Regex) (after : List Char) =>
      match item with
      | some item => group? steps depth (opened.push item) { reader with rest := after }
      | none => none
    let repeating := fun (bounds : Option (Nat × Option Nat × List Char)) =>
      match bounds with
      | some (least, most, after) =>
        match opened.repeat? least most after with
        | some (opened, after) => group? steps depth opened { reader with rest := after }
        | none => none
      | none => none
    match skipFree flags reader.rest.length reader.rest with
    | [] => some (opened.close, { reader with rest := [] })
    | ')' :: rest => some (opened.close, { reader with rest := ')' :: rest })
    | '|' :: rest =>
      let item := sequence (opened.items.filterMap id)
      group? steps depth ⟨flags, item :: opened.done, []⟩ { reader with rest }
    | '(' :: rest =>
      match opening? rest with
      | none => none
      | some (.switch switch, after) =>
        match switch flags with
        | some flags =>
          -- The flags hold up to the end of the group around them; there is nothing to repeat.
          group? steps depth { opened with flags, items := none :: opened.items }
            { reader with rest := after }
        | none => none
      | some (.group name switch, after) =>
        -- A group with a colon is not remembered, whether flags stand before it or not.
        let isKept := switch.isNone
        let isTaken := match name with
          | some name => reader.names.any fun entry => entry.1 == name
          | none => false
        let index := reader.groups + 1
        let names := match name with
          | some name => reader.names ++ [(name, index)]
          | none => reader.names
        if isTaken || nestingLimit ≤ depth then none
        else match (switch.getD some) flags with
          | none => none
          | some inner =>
            let groups := if isKept then index else reader.groups
            match group? steps (depth + 1) ⟨inner, [], []⟩ ⟨after, groups, names⟩ with
            | some (tree, reader) =>
              match reader.rest with
              | ')' :: rest =>
                let item := if isKept then .group index tree else tree
                group? steps depth (opened.push item) { reader with rest }
              | _ => none
            | none => none
    | '[' :: rest =>
      match class? flags steps rest with
      | some (set, after) => push (setItem? flags set) after
      | none => none
    | '*' :: rest => repeating (some (0, none, rest))
    | '+' :: rest => repeating (some (1, none, rest))
    | '?' :: rest => repeating (some (0, some 1, rest))
    | '\x7b' :: rest => repeating (bounds? rest)
    | '.' :: rest => push (setItem? flags (dot flags)) rest
    | '^' :: rest =>
      let look : Look := if !flags.hasLines then .start
        else if flags.hasReturns then .returnLineStart else .lineStart
      push (some (.place look)) rest
    | '$' :: rest =>
      let look : Look := if !flags.hasLines then .stop
        else if flags.hasReturns then .returnLineStop else .lineStop
      push (some (.place look)) rest
    | '\\' :: rest =>
      match escape? flags rest with
      | some (escape, after) => push (escapeItem? flags escape) after
      | none => none
    | c :: rest => push (some (charItem flags c)) rest

/-- The number of steps that a set takes: one for a single range, and else two for each, since a
range may start or end within the code points that share a lead. -/
def setSize (set : CharSet) : Nat :=
  if set.rangeCount ≤ 1 then 1 else 2 * set.rangeCount

/-- The number of steps that a pattern takes once repetitions are written out. -/
def size : Regex → Nat
  | .empty => 0
  | .oneOf set => setSize set
  | .place _ => 1
  | .both first second => first.size + second.size
  | .either first second => first.size + second.size + 2
  | .group _ inner => inner.size + 2
  | .repeated inner least (some most) _ => inner.size * max least most + (most - least) + 2
  | .repeated inner least none _ => inner.size * max least 1 + 2

/-- The greatest size of a pattern. -/
def sizeLimit : Nat := 327680

/-- The tree that a text writes, and its named groups. -/
def parse? (text : String) : Option (Regex × List (String × Nat)) :=
  let chars := text.toList
  match group? (2 * chars.length + 2) 0 ⟨.initial, [], []⟩ ⟨chars, 0, []⟩ with
  | some (tree, reader) =>
    if reader.rest.isEmpty && tree.size ≤ sizeLimit then some (tree, reader.names) else none
  | none => none

end Regex

end Reshape
