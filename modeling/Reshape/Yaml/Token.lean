import Reshape.Yaml.Scalar

/-!
The tokens of a YAML text. Collections that indentation marks get tokens of their own for where they
start and end. A scalar may turn out to be a key when the colon behind it is met; the token that
marks the key is then put in front of it.
-/

namespace Reshape.Yaml

/-- A token. -/
inductive Token where
  /-- A line that tells the version. -/
  | directive
  | documentStart
  | documentEnd
  | sequenceStart
  | mappingStart
  /-- The end of a collection that indentation marks. -/
  | blockEnd
  | bracketOpen
  | bracketClose
  | braceOpen
  | braceClose
  /-- The dash before an item. -/
  | dash
  | comma
  | key
  | value
  | alias (name : String)
  | anchor (name : String)
  | tag (name : String)
  | scalar (text : String) (isPlain : Bool)
  deriving DecidableEq, Repr

/-- A place where a key may have started. -/
structure Candidate where
  /-- How many tokens stand before. -/
  position : Nat
  line : Nat
  column : Nat
  offset : Nat
  /-- Whether nothing but a key can stand there. -/
  isRequired : Bool
  deriving Repr

/-- The state of the search for tokens. -/
structure Scan where
  cursor : Cursor
  /-- The columns of the collections around the place, innermost first. -/
  indents : List Nat
  /-- Where a key may have started, in each pair of brackets around the place, innermost first, and
  outside all of them. -/
  candidate : Option Candidate
  outer : List (Option Candidate)
  /-- Whether a key may start at the place. -/
  allowsKey : Bool
  tokens : Array Token
  deriving Repr

namespace Scan

/-- Whether the place is inside brackets. -/
def isBracketed (scan : Scan) : Bool :=
  !scan.outer.isEmpty

/-- The state with one more token. -/
def push (scan : Scan) (token : Token) : Scan :=
  { scan with tokens := scan.tokens.push token }

/-- The state without a candidate for a key; a place that needs one has to have it. -/
def dropCandidate (scan : Scan) : Option Scan :=
  if scan.candidate.any Candidate.isRequired then none
  else some { scan with candidate := none }

/-- How far a key goes at most. -/
def longestKey : Nat := 1024

/-- Whether the text has gone too far for a candidate. -/
def isStale (cursor : Cursor) (candidate : Candidate) : Bool :=
  candidate.line < cursor.line || candidate.offset + longestKey < cursor.offset

/-- The state without the candidates that are too far back. -/
def dropStale (scan : Scan) : Option Scan :=
  let fresh := fun candidate => candidate.filter fun found => !isStale scan.cursor found
  let isLost := fun candidate =>
    candidate.any fun found => found.isRequired && isStale scan.cursor found
  if (scan.candidate :: scan.outer).any isLost then none
  else some { scan with candidate := fresh scan.candidate, outer := scan.outer.map fresh }

/-- The state with a candidate for a key at the place, if one may start there. -/
def saveCandidate (scan : Scan) : Option Scan :=
  if scan.allowsKey then do
    -- At the column of the collection around it only its next key can stand.
    let isRequired := !scan.isBracketed && scan.indents.head? == some scan.cursor.column
    let scan ← scan.dropCandidate
    let cursor := scan.cursor
    return { scan with
      candidate := some ⟨scan.tokens.size, cursor.line, cursor.column, cursor.offset, isRequired⟩ }
  else some scan

/-- The state after the ends of all collections deeper than a column, or of all if none is given. -/
def close (column : Option Nat) (scan : Scan) : Scan :=
  if scan.isBracketed then scan
  else
    let isDeeper := fun indent => column.all fun column => column < indent
    let ended := (scan.indents.takeWhile isDeeper).length
    { scan with
      indents := scan.indents.drop ended
      tokens := scan.tokens ++ Array.replicate ended .blockEnd }

/-- The state inside a collection that starts at a column, if that is deeper than the one around
it. -/
def openAt (column position : Nat) (token : Token) (scan : Scan) : Scan :=
  if !scan.isBracketed && scan.indents.head?.all (· < column) then
    { scan with
      indents := column :: scan.indents
      tokens := scan.tokens.insertIdxIfInBounds position token }
  else scan

/-- The state behind blanks, comments and line ends. -/
def skipSpace : Nat → Scan → Scan
  | 0, scan => scan
  | fuel + 1, scan =>
    let allowsTab := scan.isBracketed || !scan.allowsKey
    let cursor := scan.cursor.skipWhile fun c => c == ' ' || (allowsTab && c == '\t')
    let cursor :=
      if cursor.rest.head? == some '#' then cursor.skipWhile fun c => !isBreak c else cursor
    if cursor.rest.head?.any isBreak then
      skipSpace fuel { scan with
        cursor := cursor.skipBreak.2, allowsKey := scan.allowsKey || !scan.isBracketed }
    else { scan with cursor }

/-- The state behind a token that takes some code points, where a key may start or not. -/
def take (scan : Scan) (token : Token) (count : Nat) (allowsKey : Bool) : Scan :=
  { scan with cursor := scan.cursor.skip count, allowsKey, tokens := scan.tokens.push token }

/-- Whether a version is one of the format's. -/
def isVersion (text : List Char) : Bool :=
  text == ['1', '.', '1'] || text == ['1', '.', '2']

/-- A line that tells the version of the format. -/
def readDirective (scan : Scan) : Option Scan := do
  let scan ← (scan.close none).dropCandidate
  let line := scan.cursor.rest.takeWhile fun c => !isBreak c
  let words := (List.splitOnP isBlank line).filter fun word => !word.isEmpty
  match words with
  | ['%', 'Y', 'A', 'M', 'L'] :: version :: rest =>
    if isVersion version && rest.head?.all fun word => word.head? == some '#' then
      return scan.take .directive line.length false
    else none
  | _ => none

/-- A mark that starts or ends a document. -/
def readBoundary (scan : Scan) (token : Token) : Option Scan := do
  let scan ← (scan.close none).dropCandidate
  return scan.take token 3 false

/-- An opening bracket. -/
def readOpening (scan : Scan) (token : Token) : Option Scan := do
  let scan ← scan.saveCandidate
  return { scan.take token 1 true with candidate := none, outer := scan.candidate :: scan.outer }

/-- A closing bracket. -/
def readClosing (scan : Scan) (token : Token) : Option Scan := do
  let scan ← scan.dropCandidate
  match scan.outer with
  | [] => return scan.take token 1 false
  | candidate :: outer => return { scan.take token 1 false with candidate, outer }

/-- The comma between items in brackets. -/
def readComma (scan : Scan) : Option Scan := do
  let scan ← scan.dropCandidate
  return scan.take .comma 1 true

/-- The dash before an item. -/
def readDash (scan : Scan) : Option Scan := do
  -- Outside brackets a dash stands at the start of a line or behind another mark.
  if !scan.isBracketed && !scan.allowsKey then none
  let scan := scan.openAt scan.cursor.column scan.tokens.size .sequenceStart
  let scan ← scan.dropCandidate
  return scan.take .dash 1 true

/-- The question mark before a key. -/
def readQuestion (scan : Scan) : Option Scan := do
  if !scan.isBracketed && !scan.allowsKey then none
  let scan := scan.openAt scan.cursor.column scan.tokens.size .mappingStart
  let scan ← scan.dropCandidate
  return scan.take .key 1 (!scan.isBracketed)

/-- The colon before a value; what stands before it becomes a key. -/
def readColon (scan : Scan) : Option Scan :=
  match scan.candidate with
  | some found =>
    -- The mark of the key goes where the candidate was saved, before all tokens of the key.
    let tokens := scan.tokens.insertIdxIfInBounds found.position .key
    let scan := { scan with candidate := none, tokens }
    let scan := scan.openAt found.column found.position .mappingStart
    some (scan.take .value 1 false)
  | none =>
    if !scan.isBracketed && !scan.allowsKey then none
    else
      let scan := scan.openAt scan.cursor.column scan.tokens.size .mappingStart
      some (scan.take .value 1 (!scan.isBracketed))

/-- Whether a code point may be part of an anchor's name. -/
def isNameChar (c : Char) : Bool :=
  c.isAlphanum || c == '_' || c == '-'

/-- An anchor or an alias. -/
def readName (scan : Scan) (token : String → Token) : Option Scan := do
  let scan ← scan.saveCandidate
  let name := (scan.cursor.rest.drop 1).takeWhile isNameChar
  let rest := scan.cursor.rest.drop (name.length + 1)
  let isEnded := endsWord rest ||
    rest.head?.any fun c => ['?', ':', ',', ']', '\x7d', '%', '@', '\x60'].contains c
  if name.isEmpty || !isEnded then none
  return scan.take (token (String.ofList name)) (name.length + 1) false

/-- A tag. -/
def readTag (scan : Scan) : Option Scan := do
  let scan ← scan.saveCandidate
  let name := scan.cursor.rest.takeWhile fun c =>
    !isBlank c && !isBreak c && !(scan.isBracketed && isBracketMark c)
  let rest := scan.cursor.rest.drop name.length
  if !endsWord rest && rest.head? != some ',' then none
  return scan.take (.tag (String.ofList name)) name.length false

/-- A block of lines. -/
def readBlockScalar (scan : Scan) : Option Scan := do
  let scan ← scan.dropCandidate
  let (text, cursor) ← readBlock scan.indents.head? scan.cursor
  return { scan.push (.scalar text false) with cursor, allowsKey := true }

/-- A quoted scalar. -/
def readQuotedScalar (scan : Scan) (quote : Char) : Option Scan := do
  let scan ← scan.saveCandidate
  let (text, cursor) ← readQuoted quote scan.cursor
  return { scan.push (.scalar text false) with cursor, allowsKey := false }

/-- A plain scalar. -/
def readPlainScalar (scan : Scan) : Option Scan := do
  let scan ← scan.saveCandidate
  let least := scan.indents.head?.elim 0 (· + 1)
  let (text, gap, cursor) ← readPlain scan.isBracketed least scan.cursor
  return { scan.push (.scalar text true) with cursor, allowsKey := gap.isBroken }

/-- Whether a code point has a meaning of its own at the start of a token. -/
def isIndicator (c : Char) : Bool :=
  ['-', '?', ':', ',', '[', ']', '\x7b', '\x7d', '#', '&', '*', '!', '|', '>', '\'', '"', '%', '@',
    '\x60'].contains c

/-- Whether a plain scalar starts with a code point. -/
def startsPlain (isBracketed : Bool) (c : Char) (rest : List Char) : Bool :=
  !isIndicator c || (c == '-' && !(rest.head?.any isBlank)) ||
    (!isBracketed && (c == '?' || c == ':') && !endsWord rest)

/-- The state behind the token that starts here. -/
def readToken (scan : Scan) (c : Char) (rest : List Char) : Option Scan :=
  let cursor := scan.cursor
  let isBracketed := scan.isBracketed
  if cursor.column == 0 && c == '%' then scan.readDirective
  else if cursor.isAtMark '-' then scan.readBoundary .documentStart
  else if cursor.isAtMark '.' then scan.readBoundary .documentEnd
  else match c with
    | '[' => scan.readOpening .bracketOpen
    | '\x7b' => scan.readOpening .braceOpen
    | ']' => scan.readClosing .bracketClose
    | '\x7d' => scan.readClosing .braceClose
    | ',' => scan.readComma
    | '*' => scan.readName .alias
    | '&' => scan.readName .anchor
    | '!' => scan.readTag
    | '\'' | '"' => scan.readQuotedScalar c
    | c =>
      if c == '-' && endsWord rest then scan.readDash
      else if c == '?' && (isBracketed || endsWord rest) then scan.readQuestion
      else if c == ':' && (isBracketed || endsWord rest) then scan.readColon
      else if (c == '|' || c == '>') && !isBracketed then scan.readBlockScalar
      else if startsPlain isBracketed c rest then scan.readPlainScalar
      else none

/-- The tokens of what follows and of what was read. -/
def run : Nat → Scan → Option (List Token)
  | 0, _ => none
  | fuel + 1, scan => do
    let scan := skipSpace (scan.cursor.rest.length + 1) scan
    let scan ← scan.dropStale
    let scan := scan.close (some scan.cursor.column)
    match scan.cursor.rest with
    | [] => return (← (scan.close none).dropCandidate).tokens.toList
    | c :: rest => run fuel (← scan.readToken c rest)

end Scan

/-- The tokens of a text. -/
def Token.scan (text : List Char) : Option (List Token) :=
  if text.all isAllowed then
    Scan.run (text.length + 2) ⟨.start text, [], none, [], true, #[]⟩
  else none

end Reshape.Yaml
