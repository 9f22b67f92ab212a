/-!
The scalars of a YAML text: plain, quoted, and written as a block of lines. Inside plain and quoted
ones a single line end counts as a space, and further ones stand for themselves. Reading moves a
cursor forward, a place in the text with its line and column, on which indentation depends; line
ends of one or two code points count as one.
-/

namespace Reshape.Yaml

/-- A place in a text. -/
structure Cursor where
  /-- What follows. -/
  rest : List Char
  /-- How many lines end before. -/
  line : Nat
  /-- How many code points of the line stand before. -/
  column : Nat
  /-- How many code points stand before. -/
  offset : Nat
  deriving Repr

/-- Whether a code point ends a line. -/
def isBreak (c : Char) : Bool :=
  c == '\n' || c == '\r' || c.toNat == 0x85 || c.toNat == 0x2028 || c.toNat == 0x2029

/-- Whether a code point is a blank inside a line. -/
def isBlank (c : Char) : Bool :=
  c == ' ' || c == '\t'

/-- Whether a word ends before a text. -/
def endsWord : List Char → Bool
  | [] => true
  | c :: _ => isBlank c || isBreak c

/-- Whether a code point may occur at all. -/
def isAllowed (c : Char) : Bool :=
  let n := c.toNat
  n == 0x09 || n == 0x0A || n == 0x0D || (0x20 ≤ n && n ≤ 0x7E) || n == 0x85 ||
    (0xA0 ≤ n && n ≤ 0xFFFD) || 0x10000 ≤ n

namespace Cursor

/-- The start of a text. -/
def start (text : List Char) : Cursor := ⟨text, 0, 0, 0⟩

/-- The place after some code points of the line. -/
def skip (cursor : Cursor) (count : Nat) : Cursor :=
  { cursor with
    rest := cursor.rest.drop count
    column := cursor.column + count
    offset := cursor.offset + count }

/-- The place after the code points of the line that a test accepts. -/
def skipWhile (cursor : Cursor) (accepts : Char → Bool) : Cursor :=
  cursor.skip (cursor.rest.takeWhile accepts).length

/-- The place after the end of the line, and the code point that the line end counts as; none at
the end of the text. -/
def skipBreak (cursor : Cursor) : List Char × Cursor :=
  let after (rest : List Char) (count : Nat) : Cursor :=
    ⟨rest, cursor.line + 1, 0, cursor.offset + count⟩
  match cursor.rest with
  | '\r' :: '\n' :: rest => (['\n'], after rest 2)
  | c :: rest =>
    (if c.toNat == 0x2028 || c.toNat == 0x2029 then [c] else ['\n'], after rest 1)
  | [] => ([], cursor)

/-- Whether a mark of three code points stands here as a word that starts a line. -/
def isAtMark (cursor : Cursor) (mark : Char) : Bool :=
  cursor.column == 0 && cursor.rest.take 3 == [mark, mark, mark] && endsWord (cursor.rest.drop 3)

/-- Whether a document starts or ends here by its mark. -/
def isAtBoundary (cursor : Cursor) : Bool :=
  cursor.isAtMark '-' || cursor.isAtMark '.'

end Cursor

/-- What stands between two words of a scalar. -/
structure Gap where
  /-- Whether it starts with a line end behind a backslash. -/
  isEscaped : Bool
  /-- The blanks before any line end. -/
  blanks : List Char
  breaks : List Char
  deriving Repr

namespace Gap

/-- No gap. -/
def none : Gap := ⟨false, [], []⟩

/-- Whether the gap goes on to another line. -/
def isBroken (gap : Gap) : Bool :=
  gap.isEscaped || !gap.breaks.isEmpty

/-- Whether nothing stands between the words. -/
def isNone (gap : Gap) : Bool :=
  !gap.isBroken && gap.blanks.isEmpty

/-- The gap with one more blank; on later lines blanks count for nothing. -/
def addBlank (gap : Gap) (c : Char) : Gap :=
  if gap.isBroken then gap else { gap with blanks := gap.blanks ++ [c] }

/-- The gap with one more line end. -/
def addBreak (gap : Gap) (breaks : List Char) : Gap :=
  { gap with blanks := [], breaks := gap.breaks ++ breaks }

/-- What the gap stands for. -/
def text (gap : Gap) : List Char :=
  if gap.isEscaped then gap.breaks
  else match gap.breaks with
    | [] => gap.blanks
    | ['\n'] => [' ']
    | '\n' :: more => more
    | breaks => breaks

end Gap

/-- Whether a code point has a meaning of its own in a collection in brackets. -/
def isBracketMark (c : Char) : Bool :=
  [',', '[', ']', '\x7b', '\x7d'].contains c

/-- Whether a plain scalar ends before a code point. -/
def plainEnds (isBracketed : Bool) (c : Char) (rest : List Char) : Bool :=
  (c == ':' && endsWord rest) || (isBracketed && isBracketMark c)

/-- Whether a colon is out of place in a plain scalar inside brackets. -/
def isStrayColon (c : Char) (rest : List Char) : Bool :=
  c == ':' && (rest.head?.any fun next => next == '?' || isBracketMark next)

/-- Reads on in a plain scalar, given what was read of it, in reverse, and the gap since. Later
lines stand at the least column or beyond, except inside brackets. -/
def plainFrom (isBracketed : Bool) (least : Nat) :
    Nat → Cursor → Gap → List Char → Option (String × Gap × Cursor)
  | 0, _, _, _ => none
  | fuel + 1, cursor, gap, done =>
    let finished := some (String.ofList done.reverse, gap, cursor)
    match cursor.rest with
    | [] => finished
    | c :: rest =>
      if isBlank c then
        if gap.isBroken && c == '\t' && cursor.column < least then none
        else plainFrom isBracketed least fuel (cursor.skip 1) (gap.addBlank c) done
      else if isBreak c then
        let (breaks, next) := cursor.skipBreak
        plainFrom isBracketed least fuel next (gap.addBreak breaks) done
      -- A number sign starts a comment only behind a blank or a line end.
      else if !gap.isNone && ((!isBracketed && cursor.column < least) || c == '#') then finished
      else if cursor.isAtBoundary then finished
      else if isBracketed && isStrayColon c rest then none
      else if plainEnds isBracketed c rest then finished
      else
        plainFrom isBracketed least fuel (cursor.skip 1) .none (c :: (gap.text.reverse ++ done))

/-- The plain scalar that starts here, the gap behind it, and what follows. -/
def readPlain (isBracketed : Bool) (least : Nat) (cursor : Cursor) :
    Option (String × Gap × Cursor) :=
  plainFrom isBracketed least (cursor.rest.length + 1) cursor .none []

/-- What a letter stands for behind a backslash. -/
def escaped? (c : Char) : Option Char :=
  match c with
  | '0' => some '\x00'
  | 'a' => some '\x07'
  | 'b' => some '\x08'
  | 't' | '\t' => some '\t'
  | 'n' => some '\n'
  | 'v' => some '\x0b'
  | 'f' => some '\x0c'
  | 'r' => some '\r'
  | 'e' => some '\x1b'
  | ' ' | '"' | '/' | '\\' => some c
  | 'N' => some (Char.ofNat 0x85)
  | '_' => some (Char.ofNat 0xA0)
  | 'L' => some (Char.ofNat 0x2028)
  | 'P' => some (Char.ofNat 0x2029)
  | _ => none

/-- How many hexadecimal digits follow a letter behind a backslash. -/
def escapeWidth? (c : Char) : Option Nat :=
  match c with
  | 'x' => some 2
  | 'u' => some 4
  | 'U' => some 8
  | _ => none

/-- The value of a hexadecimal digit. -/
def hexadecimal? (c : Char) : Option Nat :=
  if c.isDigit then some (c.toNat - '0'.toNat)
  else if 'a' ≤ c ∧ c ≤ 'f' then some (c.toNat - 'a'.toNat + 10)
  else if 'A' ≤ c ∧ c ≤ 'F' then some (c.toNat - 'A'.toNat + 10)
  else none

/-- The code point that hexadecimal digits name. -/
def codePoint? (digits : List Char) : Option Char := do
  let code ← digits.foldlM (fun value c => (hexadecimal? c).map (value * 16 + ·)) 0
  if code.isValidChar then some (Char.ofNat code) else none

/-- The code point that an escape behind a backslash stands for, and how long the escape is. -/
def readEscape (text : List Char) : Option (Char × Nat) := do
  let letter ← text.head?
  match escapeWidth? letter with
  | some width =>
    let digits := (text.drop 1).take width
    if digits.length < width then none else return (← codePoint? digits, width + 1)
  | none => return (← escaped? letter, 1)

/-- Reads on in a quoted scalar up to the quote that ends it. -/
def quotedFrom (quote : Char) :
    Nat → Cursor → Gap → List Char → Option (String × Cursor)
  | 0, _, _, _ => none
  | fuel + 1, cursor, gap, done =>
    let before := gap.text.reverse ++ done
    match cursor.rest with
    | [] => none
    | c :: rest =>
      if isBlank c then quotedFrom quote fuel (cursor.skip 1) (gap.addBlank c) done
      else if isBreak c then
        let (breaks, next) := cursor.skipBreak
        quotedFrom quote fuel next (gap.addBreak breaks) done
      else if cursor.isAtBoundary then none
      else if c == quote then
        -- A single quote inside single quotes is written twice.
        if quote == '\'' && rest.head? == some '\'' then
          quotedFrom quote fuel (cursor.skip 2) .none ('\'' :: before)
        else some (String.ofList before.reverse, cursor.skip 1)
      else if quote == '"' && c == '\\' then
        -- A backslash at the end of a line joins it to the next one.
        if rest.head?.any isBreak then
          let next := (cursor.skip 1).skipBreak.2
          quotedFrom quote fuel next { Gap.none with isEscaped := true } before
        else match readEscape rest with
          | some (letter, length) =>
            quotedFrom quote fuel (cursor.skip (length + 1)) .none (letter :: before)
          | none => none
      else quotedFrom quote fuel (cursor.skip 1) .none (c :: before)

/-- The scalar behind the quote that stands here, and what follows. -/
def readQuoted (quote : Char) (cursor : Cursor) : Option (String × Cursor) :=
  quotedFrom quote (cursor.rest.length + 1) (cursor.skip 1) .none []

/-- Which line ends are kept at the end of a block. -/
inductive Chomping where
  | strip
  | clip
  | keep
  deriving DecidableEq, Repr

/-- How a block is written. -/
structure BlockStyle where
  /-- Whether line ends between words count as spaces. -/
  isFolded : Bool
  chomping : Chomping
  /-- How much deeper than its surroundings the block stands, if that is said. -/
  increment : Option Nat
  deriving Repr

/-- Which line ends a mark asks to keep. -/
def chomping? (c : Char) : Option Chomping :=
  match c with
  | '+' => some .keep
  | '-' => some .strip
  | _ => none

/-- The digit that says how deep a block stands. -/
def increment? (c : Char) : Option Nat :=
  if '1' ≤ c ∧ c ≤ '9' then some (c.toNat - '0'.toNat) else none

/-- The style that the marks behind a block's first mark ask for, and how many there are. -/
def blockStyle (isFolded : Bool) (text : List Char) : BlockStyle × Nat :=
  let first := text.head?
  let second := text.tail.head?
  match first.bind chomping?, first.bind increment? with
  | some chomping, _ =>
    let increment := second.bind increment?
    (⟨isFolded, chomping, increment⟩, if increment.isSome then 2 else 1)
  | none, some increment =>
    let chomping := second.bind chomping?
    (⟨isFolded, chomping.getD .clip, some increment⟩, if chomping.isSome then 2 else 1)
  | none, none => (⟨isFolded, .clip, none⟩, 0)

/-- Skips empty lines and the indentation of the line behind them, up to an indentation if there is
one. Returns the line ends, the place, and the greatest column met. -/
def skipEmptyLines (indentation : Option Nat) :
    Nat → Cursor → List Char → Nat → Option (List Char × Cursor × Nat)
  | 0, _, _, _ => none
  | fuel + 1, cursor, breaks, widest =>
    let spaces := (cursor.rest.takeWhile (· == ' ')).length
    let taken := indentation.elim spaces fun limit => min spaces (limit - cursor.column)
    let cursor := cursor.skip taken
    let widest := max widest cursor.column
    let isShort := indentation.all fun limit => cursor.column < limit
    match cursor.rest with
    | [] => some (breaks, cursor, widest)
    | c :: _ =>
      if isShort && c == '\t' then none
      else if isBreak c then
        let (ends, next) := cursor.skipBreak
        skipEmptyLines indentation fuel next (breaks ++ ends) widest
      else some (breaks, cursor, widest)

/-- A block while it is read. -/
structure Block where
  /-- What was read, in reverse. -/
  done : List Char
  /-- The end of the last line. -/
  ending : List Char
  /-- The ends of the empty lines behind it. -/
  breaks : List Char
  /-- Whether the last line starts with a blank. -/
  wasBlank : Bool
  cursor : Cursor
  deriving Repr

/-- Reads the lines of a block that stand at an indentation. -/
def Block.readLines (isFolded : Bool) (indentation : Nat) : Nat → Block → Option Block
  | 0, _ => none
  | fuel + 1, block =>
    let cursor := block.cursor
    if cursor.column != indentation || cursor.rest.isEmpty then some block
    else
      let startsBlank := cursor.rest.head?.any isBlank
      -- Lines that start with a blank keep the line ends around them, in folded blocks too.
      let joint :=
        if isFolded && block.ending == ['\n'] && !block.wasBlank && !startsBlank then
          if block.breaks.isEmpty then [' '] else []
        else block.ending
      let line := cursor.rest.takeWhile fun c => !isBreak c
      let (ending, next) := (cursor.skip line.length).skipBreak
      match skipEmptyLines (some indentation) (next.rest.length + 1) next [] 0 with
      | some (breaks, next, _) =>
        let done := line.reverse ++ block.breaks.reverse ++ joint.reverse ++ block.done
        readLines isFolded indentation fuel ⟨done, ending, breaks, startsBlank, next⟩
      | none => none

/-- The text of a block that was read to its end. -/
def Block.text (chomping : Chomping) (block : Block) : String :=
  let tail := match chomping with
    | .strip => []
    | .clip => block.ending
    | .keep => block.ending ++ block.breaks
  String.ofList (block.done.reverse ++ tail)

/-- The block whose first mark stands here, inside a collection at an indentation, and what
follows. -/
def readBlock (surrounding : Option Nat) (cursor : Cursor) : Option (String × Cursor) := do
  let (style, marks) := blockStyle (cursor.rest.head? == some '>') (cursor.rest.drop 1)
  let header := (cursor.skip (marks + 1)).skipWhile isBlank
  let header :=
    if header.rest.head? == some '#' then header.skipWhile fun c => !isBreak c else header
  if header.rest.head?.any fun c => !isBreak c then none
  let start := header.skipBreak.2
  let fuel := start.rest.length + 1
  let least := surrounding.elim 1 (· + 1)
  let fixed := style.increment.map fun increment => surrounding.getD 0 + increment
  let (breaks, place, widest) ← skipEmptyLines fixed fuel start [] 0
  -- Without a digit the deepest line up to the first one with words tells how deep it stands.
  let indentation := fixed.getD (max widest least)
  let block ← Block.readLines style.isFolded indentation fuel ⟨[], [], breaks, false, place⟩
  return (block.text style.chomping, block.cursor)

end Reshape.Yaml
