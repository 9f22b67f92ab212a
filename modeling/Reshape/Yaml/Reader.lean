import Reshape.Yaml.Basic
import Reshape.Yaml.Token

/-!
Reading YAML: one document, from its tokens. An alias stands for the node that its anchor was put
on, and where a node may be left out nothing is written.
-/

namespace Reshape.Yaml

/-- What is left to read, and the nodes under their anchors, the latest first. -/
structure Reading where
  tokens : List Token
  anchors : List (String × Yaml)
  deriving Repr

/-- Reading takes tokens, or finds that they make no document. -/
abbrev Read := StateT Reading Option

namespace Read

/-- The next token. -/
def peek : Read (Option Token) := do
  return (← get).tokens.head?

/-- Takes the next token. -/
def advance : Read Unit :=
  modify fun reading => { reading with tokens := reading.tokens.tail }

/-- Takes the next token if it is the given one, and tells whether it was. -/
def accept (token : Token) : Read Bool := do
  if (← peek) == some token then
    advance
    return true
  else return false

/-- Takes the next token, which has to be the given one. -/
def expect (token : Token) : Read Unit := do
  if !(← accept token) then failure

/-- Whether the next token is one of some. -/
def isAt (tokens : List Token) : Read Bool := do
  return (← peek).any tokens.contains

/-- The node of an anchor. -/
def resolve (name : String) : Read Yaml := do
  match (← get).anchors.lookup name with
  | some node => return node
  | none => failure

/-- The node, put under its anchor if it has one. -/
def bind (anchor : Option String) (node : Yaml) : Read Yaml := do
  match anchor with
  | some name =>
    modify fun reading => { reading with anchors := (name, node) :: reading.anchors }
    return node
  | none => return node

/-- The anchor that stands here. -/
def anchor? : Read (Option String) := do
  match ← peek with
  | some (.anchor name) => advance; return some name
  | _ => return none

/-- The tag that stands here. -/
def tag? : Read (Option String) := do
  match ← peek with
  | some (.tag name) => advance; return some name
  | _ => return none

/-- The anchor and the tag that stand here, in either order. -/
def properties : Read (Option String × Option String) := do
  match ← anchor? with
  | some name => return (some name, ← tag?)
  | none =>
    let tag ← tag?
    return (← anchor?, tag)

end Read

/-- The tag of texts. -/
def textTag : String := "!!str"

/-- Whether a tag is one of the format's own; the application has none. -/
def isKnownTag (tag : String) : Bool :=
  tag = "!" ∨ [textTag, "!!bool", "!!int", "!!float", "!!null", "!!seq", "!!map"].contains tag

mutual

/-- Reads a node. Only outside brackets can indentation mark collections, and only as a value of a
mapping can items stand no deeper than what is around them. -/
def readNode (isBlock allowsItems : Bool) : Nat → Read Yaml
  | 0 => failure
  | fuel + 1 => do
    match ← Read.peek with
    | some (.alias name) =>
      Read.advance
      Read.resolve name
    | _ =>
      let (anchor, tag) ← Read.properties
      if !tag.all isKnownTag then failure
      match ← Read.peek with
      | some (.scalar text isPlain) =>
        Read.advance
        Read.bind anchor (.scalar text (isPlain && tag != some textTag))
      | some .bracketOpen =>
        Read.advance
        Read.bind anchor (.sequence (← readBracketed true fuel))
      | some .braceOpen =>
        Read.advance
        Read.bind anchor (.mapping (← readBraced true fuel))
      | some .dash =>
        if allowsItems then Read.bind anchor (.sequence (← readBareItems fuel))
        else readNothing anchor tag
      | some .sequenceStart =>
        if isBlock then
          Read.advance
          Read.bind anchor (.sequence (← readItems fuel))
        else readNothing anchor tag
      | some .mappingStart =>
        if isBlock then
          Read.advance
          Read.bind anchor (.mapping (← readEntries fuel))
        else readNothing anchor tag
      | _ => readNothing anchor tag

/-- A node of which nothing but an anchor or a tag is written. -/
def readNothing (anchor tag : Option String) : Read Yaml :=
  if anchor.isNone && tag.isNone then failure
  else Read.bind anchor (.scalar "" (tag != some textTag))

/-- Reads a node, unless one of some tokens shows that it is left out. -/
def readOptional (isBlock allowsItems : Bool) (ends : List Token) : Nat → Read Yaml
  | 0 => failure
  | fuel + 1 => do
    if ← Read.isAt ends then return empty
    else readNode isBlock allowsItems fuel

/-- Reads items behind dashes up to the end of their sequence. -/
def readItems : Nat → Read (List Yaml)
  | 0 => failure
  | fuel + 1 => do
    if ← Read.accept .blockEnd then return []
    else
      Read.expect .dash
      let item ← readOptional true false [.dash, .blockEnd] fuel
      return item :: (← readItems fuel)

/-- Reads items behind dashes as long as there are more. -/
def readBareItems : Nat → Read (List Yaml)
  | 0 => failure
  | fuel + 1 => do
    if ← Read.accept .dash then
      let item ← readOptional true false [.dash, .key, .value, .blockEnd] fuel
      return item :: (← readBareItems fuel)
    else return []

/-- Reads keys and values up to the end of their mapping. -/
def readEntries : Nat → Read (List (Yaml × Yaml))
  | 0 => failure
  | fuel + 1 => do
    if ← Read.accept .blockEnd then return []
    else
      Read.expect .key
      let ends := [.key, .value, .blockEnd]
      let key ← readOptional true true ends fuel
      let value ← if ← Read.accept .value then readOptional true true ends fuel else pure empty
      return (key, value) :: (← readEntries fuel)

/-- Reads items in brackets; behind the first each needs a comma before it. -/
def readBracketed (isFirst : Bool) : Nat → Read (List Yaml)
  | 0 => failure
  | fuel + 1 => do
    if ← Read.accept .bracketClose then return []
    else
      if !isFirst then Read.expect .comma
      -- A comma may stand before the closing bracket.
      if ← Read.accept .bracketClose then return []
      else if ← Read.accept .key then
        let key ← readOptional false false [.value, .comma, .bracketClose] fuel
        let value ←
          if ← Read.accept .value then readOptional false false [.comma, .bracketClose] fuel
          else pure empty
        -- A key among the items makes a mapping of one entry.
        return .mapping [(key, value)] :: (← readBracketed false fuel)
      else
        let item ← readNode false false fuel
        return item :: (← readBracketed false fuel)

/-- Reads keys and values in braces; behind the first each needs a comma before it. -/
def readBraced (isFirst : Bool) : Nat → Read (List (Yaml × Yaml))
  | 0 => failure
  | fuel + 1 => do
    if ← Read.accept .braceClose then return []
    else
      if !isFirst then Read.expect .comma
      if ← Read.accept .braceClose then return []
      else if ← Read.accept .key then
        let key ← readOptional false false [.value, .comma, .braceClose] fuel
        let value ←
          if ← Read.accept .value then readOptional false false [.comma, .braceClose] fuel
          else pure empty
        return (key, value) :: (← readBraced false fuel)
      else
        let key ← readNode false false fuel
        return (key, empty) :: (← readBraced false fuel)

end

/-- Takes the marks that end a document. -/
def skipEnds : List Token → List Token
  | .documentEnd :: rest => skipEnds rest
  | tokens => tokens

/-- The node of a document. -/
def readContent (fuel : Nat) (isMarked : Bool) : Read Yaml := do
  match ← Read.peek with
  | none => return empty
  | some _ =>
    if isMarked && (← Read.isAt [.directive, .documentStart, .documentEnd]) then return empty
    else readNode true false fuel

/-- The only document of a text. -/
def readDocument (fuel : Nat) : Read Yaml := do
  let isVersioned ← Read.accept .directive
  let isMarked ← Read.accept .documentStart
  if isVersioned && !isMarked then failure
  let node ← readContent fuel isMarked
  if (skipEnds (← get).tokens).isEmpty then return node else failure

/-- How many collections may stand inside each other. -/
def depthLimit : Nat := 128

/-- The document of a text; a text without any has an empty node. -/
def parse? (source : String) : Option Yaml := do
  let text := match source.toList with
    | c :: rest => if c.toNat == 0xFEFF then rest else c :: rest
    | [] => []
  let tokens ← Token.scan text
  let (node, _) ← (readDocument (2 * tokens.length + 2)).run ⟨tokens, []⟩
  if node.depth ≤ depthLimit then return node else none

end Reshape.Yaml
