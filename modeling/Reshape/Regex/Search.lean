import Reshape.Regex.Pattern
import Reshape.Text.Utf8
import Reshape.Value.Text

/-!
Searching with patterns. A pattern is laid out as steps, and the threads that follow them are tried
in order of preference; a step is tried once at each position, so that a search takes time in
proportion to the product of the two lengths. Of all matches the leftmost counts, and of those the
one that the order of alternatives prefers.

In a text there is a match or not, all of them are found, and each is replaced. A replacement refers
to groups by number or name behind a dollar sign.
-/

namespace Reshape.Regex

/-- One step of a laid-out pattern. Goals are relative to the step itself. -/
inductive Step where
  | oneOf (set : CharSet)
  | place (look : Look)
  /-- Remembers the position. -/
  | mark (slot : Nat)
  /-- Goes on at one goal or, if that fails, at the other. -/
  | split (first second : Int)
  | jump (goal : Int)
  | accept

/-- Whether a pattern can match nothing at all. -/
def isNullable : Regex → Bool
  | .empty | .place _ => true
  | .oneOf _ => false
  | .both first second => first.isNullable && second.isNullable
  | .either first second => first.isNullable || second.isNullable
  | .group _ inner => inner.isNullable
  | .repeated inner least _ _ => least == 0 || inner.isNullable

/-- A choice whose first goal is preferred if it is greedy. -/
def choice (isGreedy : Bool) (into past : Int) : Step :=
  if isGreedy then .split into past else .split past into

/-- Steps repeated at most a number of times; each time starts with the choice to go past all that
are left. -/
def upTo (isGreedy : Bool) (body : List Step) : Nat → List Step
  | 0 => []
  | count + 1 =>
    -- The goal past all that are left is told from their number, without laying them out first.
    let left := (body.length + 1) * (count + 1)
    choice isGreedy 1 left :: body ++ upTo isGreedy body count

/-- The choices of repeated steps lead just past the last of them. -/
theorem length_upTo (isGreedy : Bool) (body : List Step) (count : Nat) :
    (upTo isGreedy body count).length = (body.length + 1) * count := by
  induction count with
  | zero => rfl
  | succ count ih =>
    simp only [upTo, List.cons_append, List.length_cons, List.length_append, ih, Nat.mul_add]
    omega

/-- Steps repeated once or more. -/
def onceOrMore (isGreedy : Bool) (body : List Step) : List Step :=
  body ++ [choice isGreedy (-(body.length : Int)) 1]

/-- Steps repeated any number of times. What can match nothing is tried once before it repeats. -/
def anyTimes (isGreedy isNullable : Bool) (body : List Step) : List Step :=
  if isNullable then
    -- A round that matches nothing comes back to a step already tried, and is dropped there.
    let repeating := onceOrMore isGreedy body
    choice isGreedy 1 (repeating.length + 1) :: repeating
  else
    choice isGreedy 1 (body.length + 2) :: body ++ [.jump (-(body.length + 1 : Int))]

/-- The steps of a pattern. -/
def steps : Regex → List Step
  | .empty => []
  | .oneOf set => [.oneOf set]
  | .place look => [.place look]
  | .both first second => first.steps ++ second.steps
  | .either first second =>
    let left := first.steps
    let right := second.steps
    .split 1 (left.length + 2) :: left ++ .jump (right.length + 1) :: right
  | .group index inner => .mark (2 * index) :: inner.steps ++ [.mark (2 * index + 1)]
  | .repeated inner least most isGreedy =>
    let body := inner.steps
    match least, most with
    | 0, none => anyTimes isGreedy inner.isNullable body
    | least + 1, none =>
      (List.replicate least body).flatten ++ onceOrMore isGreedy body
    | least, some most =>
      (List.replicate least body).flatten ++ upTo isGreedy body (most - least)

/-- What stands next to a position on one side. -/
inductive Neighbour where
  /-- The text ends there. -/
  | edge
  /-- No code point. -/
  | broken
  | char (c : Char)

/-- A text to be searched. -/
structure Haystack where
  /-- The number of positions behind which something stands. -/
  size : Nat
  /-- The code point at each position and the number of positions that it takes, if there is one. -/
  units : Array (Option (Char × Nat))

namespace Haystack

/-- The code points of a string, one to a position. -/
def ofChars (text : List Char) : Haystack :=
  ⟨text.length, (text.map fun c => some (c, 1)).toArray⟩

/-- The code point at the start of octets, and the number of octets that it takes. -/
def unitOf : Bytes → Option (Char × Nat)
  | [] => none
  | b :: rest =>
    match Utf8.scan b rest with
    | (some c, _) => some (c, Utf8.width c)
    | (none, _) => none

/-- The code points at all positions of octets. -/
def unitsOf : Bytes → List (Option (Char × Nat))
  | [] => []
  | b :: rest => unitOf (b :: rest) :: unitsOf rest

/-- Octets, one to a position. -/
def ofOctets (octets : Bytes) : Haystack :=
  ⟨octets.length, (unitsOf octets).toArray⟩

/-- The code point at a position and the number of positions that it takes. -/
def unit? (haystack : Haystack) (position : Nat) : Option (Char × Nat) :=
  (haystack.units[position]?).join

/-- What stands after a position. -/
def after (haystack : Haystack) (position : Nat) : Neighbour :=
  if haystack.size ≤ position then .edge
  else match haystack.unit? position with
    | some (c, _) => .char c
    | none => .broken

/-- What stands before a position. -/
def before (haystack : Haystack) (position : Nat) : Neighbour :=
  if position = 0 then .edge
  else
    -- A code point ends here if one starts as many positions back as it takes.
    let found := [1, 2, 3, 4].findSome? fun width =>
      if position < width then none
      else match haystack.unit? (position - width) with
        | some (c, taken) => if taken = width then some c else none
        | none => none
    match found with
    | some c => .char c
    | none => .broken

end Haystack

/-- Whether a neighbour belongs to a word. -/
def Neighbour.isWord (isBasic : Bool) : Neighbour → Bool
  | .char c => if isBasic then CharSet.basicWord.has c else Property.word.holds c
  | _ => false

/-- Whether a neighbour is a given code point. -/
def Neighbour.is (expected : Char) : Neighbour → Bool
  | .char c => c == expected
  | _ => false

/-- Whether the text ends at a neighbour. -/
def Neighbour.isEdge : Neighbour → Bool
  | .edge => true
  | _ => false

/-- Whether a neighbour is no code point. -/
def Neighbour.isBroken : Neighbour → Bool
  | .broken => true
  | _ => false

/-- Whether a position is a place that a pattern asks for, given what stands on both sides. -/
def Look.holds (look : Look) (before after : Neighbour) : Bool :=
  match look with
  | .start => before.isEdge
  | .stop => after.isEdge
  | .lineStart => before.isEdge || before.is '\n'
  | .lineStop => after.isEdge || after.is '\n'
  | .returnLineStart =>
    before.isEdge || before.is '\n' || (before.is '\r' && !after.is '\n')
  | .returnLineStop =>
    after.isEdge || after.is '\r' || (after.is '\n' && !before.is '\r')
  | .boundary isBasic => before.isWord isBasic != after.isWord isBasic
  | .noBoundary isBasic =>
    (isBasic || (!before.isBroken && !after.isBroken)) &&
      before.isWord isBasic == after.isWord isBasic
  | .wordStart isBasic => !before.isWord isBasic && after.isWord isBasic
  | .wordStop isBasic => before.isWord isBasic && !after.isWord isBasic
  | .halfStart isBasic => (isBasic || !before.isBroken) && !before.isWord isBasic
  | .halfStop isBasic => (isBasic || !after.isBroken) && !after.isWord isBasic

/-- A way through the steps that is still open: the next step, the position, and the positions
remembered so far, the last one first. -/
structure Thread where
  step : Nat
  position : Nat
  marks : List (Nat × Nat)

/-- The threads that follow a thread, in order of preference. -/
def Thread.next (program : Array Step) (haystack : Haystack) (thread : Thread) : List Thread :=
  let goal := fun (offset : Int) => ((thread.step : Int) + offset).toNat
  match program[thread.step]? with
  | some (.oneOf set) =>
    match haystack.unit? thread.position with
    | some (c, width) =>
      if set.has c then [⟨thread.step + 1, thread.position + width, thread.marks⟩] else []
    | none => []
  | some (.place look) =>
    if look.holds (haystack.before thread.position) (haystack.after thread.position) then
      [{ thread with step := thread.step + 1 }]
    else []
  | some (.mark slot) =>
    [{ thread with step := thread.step + 1, marks := (slot, thread.position) :: thread.marks }]
  | some (.split first second) =>
    [{ thread with step := goal first }, { thread with step := goal second }]
  | some (.jump offset) => [{ thread with step := goal offset }]
  | some .accept | none => []

/-- Whether a thread has gone through all steps. -/
def Thread.isDone (program : Array Step) (thread : Thread) : Bool :=
  match program[thread.step]? with
  | some .accept => true
  | _ => false

/-- The first thread to go through all steps, if one does, and the steps that were tried at each
position. -/
def explore (program : Array Step) (haystack : Haystack) :
    Nat → Array Bool → List Thread → Option Thread × Array Bool
  | 0, tried, _ => (none, tried)
  | _ + 1, tried, [] => (none, tried)
  | fuel + 1, tried, thread :: rest =>
    let slot := thread.position * program.size + thread.step
    -- An earlier thread came to this step and position, and nothing came of it.
    if tried.getD slot true then explore program haystack fuel tried rest
    else if thread.isDone program then (some thread, tried)
    else
      explore program haystack fuel (tried.setIfInBounds slot true)
        (thread.next program haystack ++ rest)

/-- The first match that starts at a position or after it, as many positions being left. -/
def findFrom (program : Array Step) (haystack : Haystack) :
    Nat → Array Bool → Nat → Option (Nat × Thread)
  | 0, _, _ => none
  | left + 1, tried, start =>
    -- Each step and position is left once, for two threads at most, and each thread is taken once.
    let fuel := 3 * (program.size + 1) * (haystack.size + 2)
    match explore program haystack fuel tried [⟨0, start, []⟩] with
    | (some thread, _) => some (start, thread)
    -- What was tried from one start need not be tried from the next: none of it led to a match.
    | (none, tried) => findFrom program haystack left tried (start + 1)

/-- A match: where it starts and stops, and the positions remembered, the last one first. -/
structure Match where
  start : Nat
  stop : Nat
  marks : List (Nat × Nat)
  deriving Repr

/-- Where a group of a match starts and stops, if it took part. Group zero is the match. -/
def Match.group? (found : Match) (index : Nat) : Option (Nat × Nat) :=
  if index = 0 then some (found.start, found.stop)
  else do return (← found.marks.lookup (2 * index), ← found.marks.lookup (2 * index + 1))

/-- A pattern ready for searching. -/
structure Searcher where
  program : Array Step
  /-- The groups that have names. -/
  names : List (String × Nat)

/-- The searcher of a pattern as text. -/
def Searcher.ofText? (text : String) : Option Searcher :=
  (parse? text).map fun (tree, names) => ⟨(tree.steps ++ [Step.accept]).toArray, names⟩

namespace Searcher

/-- The first match that starts at a position or after it. -/
def findAt (searcher : Searcher) (haystack : Haystack) (start : Nat) : Option Match :=
  let tried := Array.replicate (searcher.program.size * (haystack.size + 1)) false
  (findFrom searcher.program haystack (haystack.size + 1 - start) tried start).map
    fun (start, thread) => ⟨start, thread.position, thread.marks⟩

/-- Whether a pattern matches somewhere. -/
def isMatch (searcher : Searcher) (haystack : Haystack) : Bool :=
  (searcher.findAt haystack 0).isSome

/-- The matches from a position on, none overlapping another; an empty one does not touch the one
before it. -/
def matchesFrom (searcher : Searcher) (haystack : Haystack) : Nat → Nat → Option Nat → List Match
  | 0, _, _ => []
  | steps + 1, position, last =>
    let first := searcher.findAt haystack position
    let found := match first with
      | some found =>
        if found.start = found.stop ∧ last = some found.stop then
          searcher.findAt haystack (position + 1)
        else some found
      | none => none
    match found with
    | some found =>
      found :: matchesFrom searcher haystack steps found.stop (some found.stop)
    | none => []

/-- All matches, none overlapping another. -/
def all (searcher : Searcher) (haystack : Haystack) : List Match :=
  matchesFrom searcher haystack (haystack.size + 2) 0 none

end Searcher

/-- A part of a replacement. -/
inductive Part where
  | text (text : List Char)
  /-- What a group of the match holds. -/
  | group (index : Nat)
  | named (name : String)
  deriving Repr

/-- The group that a reference names, by its number or its name. -/
def reference (name : List Char) : Part :=
  match Numeral.readUInt64? name with
  | some index => .group index.toNat
  | none => .named (String.ofList name)

/-- Whether a code point may stand in the name of a group without braces. -/
def isReferenceChar (c : Char) : Bool :=
  c.isAlphanum || c == '_'

/-- The reference after a dollar sign, if there is one, and what follows. -/
def reference? (text : List Char) : Option (Part × List Char) :=
  match text with
  | '\x7b' :: rest =>
    let name := rest.takeWhile (· != '\x7d')
    match rest.drop name.length with
    | _ :: after => some (reference name, after)
    | [] => none
  | text =>
    let name := text.takeWhile isReferenceChar
    if name.isEmpty then none else some (reference name, text.drop name.length)

/-- The parts of a replacement; two dollar signs are one of the text. -/
def parts : Nat → List Char → List Part
  | 0, _ => []
  | _ + 1, [] => []
  | steps + 1, '$' :: '$' :: rest => .text ['$'] :: parts steps rest
  | steps + 1, '$' :: rest =>
    match reference? rest with
    | some (part, after) => part :: parts steps after
    | none => .text ['$'] :: parts steps rest
  | steps + 1, c :: rest => .text [c] :: parts steps rest

variable {α : Type}

/-- The elements between two positions. -/
def between (start stop : Nat) (elements : List α) : List α :=
  (elements.drop start).take (stop - start)

/-- What a part stands for at a match. -/
def Part.expand (searcher : Searcher) (write : List Char → List α) (elements : List α)
    (found : Match) : Part → List α
  | .text chars => write chars
  | .group index =>
    match found.group? index with
    | some (start, stop) => between start stop elements
    | none => []
  | .named name =>
    match (searcher.names.lookup name).bind found.group? with
    | some (start, stop) => between start stop elements
    | none => []

/-- The elements from a position on with the matches replaced. -/
def replacedFrom (expand : Match → List α) (elements : List α) :
    Nat → List Match → List α
  | position, [] => elements.drop position
  | position, found :: rest =>
    between position found.start elements ++ expand found ++
      replacedFrom expand elements found.stop rest

namespace Searcher

/-- A text as it is searched. -/
def haystack : Text → Haystack
  | .chars text => .ofChars text
  | .octets octets => .ofOctets octets

/-- Whether the pattern matches somewhere in a text. -/
def occursIn (searcher : Searcher) (text : Text) : Bool :=
  searcher.isMatch (haystack text)

/-- The parts of a text that the pattern matches. -/
def findAll (searcher : Searcher) (text : Text) : List Text :=
  let found := searcher.all (haystack text)
  match text with
  | .chars text => found.map fun found => .chars (between found.start found.stop text)
  | .octets octets => found.map fun found => .octets (between found.start found.stop octets)

/-- The text with each match replaced. -/
def replaceAll (searcher : Searcher) (text : Text) (replacement : String) : Text :=
  let found := searcher.all (haystack text)
  let chars := replacement.toList
  let parts := parts (chars.length + 1) chars
  match text with
  | .chars text =>
    let expand := fun found => parts.flatMap (Part.expand searcher id text found)
    .chars (replacedFrom expand text 0 found)
  | .octets octets =>
    let expand := fun found => parts.flatMap (Part.expand searcher Utf8.encode octets found)
    .octets (replacedFrom expand octets 0 found)

end Searcher

end Reshape.Regex
