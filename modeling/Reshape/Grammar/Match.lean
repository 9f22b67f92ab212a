import Reshape.Error
import Reshape.Grammar.Pattern

/-!
Matching a source against the grammar: the tree of the rules that matched, or the place where every
attempt failed together with the rules tried there. The number of nested steps is bounded by the
length of the source, and running out of them is told apart from a failure.
-/

namespace Reshape.Grammar

/-- A place in a source. -/
structure Cursor where
  /-- What follows. -/
  rest : List Char
  /-- The number of octets before. -/
  offset : Nat
  /-- The number of code points before. -/
  index : Nat
  /-- The line, counted from one. -/
  line : Nat
  deriving DecidableEq, Repr

namespace Cursor

/-- The start of a source. -/
def start (source : List Char) : Cursor := ⟨source, 0, 0, 1⟩

/-- The place after one code point, which is followed by a rest. -/
def past (cursor : Cursor) (c : Char) (rest : List Char) : Cursor :=
  ⟨rest, cursor.offset + Utf8.width c, cursor.index + 1,
    if c = '\n' then cursor.line + 1 else cursor.line⟩

/-- The place after a text, if it stands here. -/
def pastText? (cursor : Cursor) : List Char → Option Cursor
  | [] => some cursor
  | expected :: text =>
    match cursor.rest with
    | c :: rest => if c = expected then (cursor.past c rest).pastText? text else none
    | [] => none

end Cursor

/-- Whether a code point separates words: a space, a tab or the end of a line. -/
def isSeparator (c : Char) : Bool :=
  c == ' ' || c == '\t' || c == '\r' || c == '\n'

/-- The place after the separators and comments of a text, which starts at a place; a comment goes
from a number sign to the end of its line. -/
def skipBlanks (inComment : Bool) (cursor : Cursor) : List Char → Cursor
  | [] => cursor
  | c :: rest =>
    if inComment then skipBlanks (c != '\n') (cursor.past c rest) rest
    else if isSeparator c then skipBlanks false (cursor.past c rest) rest
    else if c = '#' then skipBlanks true (cursor.past c rest) rest
    else cursor

/-- A rule that matched. -/
inductive Node where
  /-- The rule, the text it matched, where that stands, and the rules inside. -/
  | node (rule : Rule) (text : String) (span : Span) (line : Nat) (children : List Node)
  deriving Repr

/-- The rules that failed at the furthest place. -/
structure Attempts where
  /-- The place, in octets. -/
  offset : Nat
  /-- The rules, in the order of their failures. -/
  rules : List Rule
  deriving DecidableEq, Repr

namespace Attempts

/-- The number of rules that failed at a place. -/
def countAt (attempts : Attempts) (offset : Nat) : Nat :=
  if offset = attempts.offset then attempts.rules.length else 0

/-- The attempts after a rule failed at a place, where `before` failures were known when the rule
was tried. A rule in which nothing got further stands for the rules inside it, unless there was just
one. -/
def failing (attempts : Attempts) (rule : Rule) (offset before : Nat) : Attempts :=
  -- Just one rule inside failed here: it says more than the rule around it.
  if attempts.countAt offset = before + 1 then attempts
  -- A place further on makes all failures before it irrelevant.
  else if attempts.offset < offset then ⟨offset, [rule]⟩
  else if offset = attempts.offset then ⟨offset, attempts.rules.take before ++ [rule]⟩
  else attempts

end Attempts

/-- How the rules around a pattern have it matched. -/
structure Mode where
  /-- Whether blanks are free. -/
  isLoose : Bool
  /-- Whether the pattern belongs to a leaf. -/
  isLeaf : Bool
  /-- Whether failures count as attempts. -/
  isTracked : Bool

/-- The mode inside a rule. -/
def Mode.inside (mode : Mode) : Treatment → Mode
  | .inherited => mode
  | .loose => { mode with isLoose := true, isLeaf := false }
  | .tight => { mode with isLoose := false, isLeaf := false }
  | .leaf => { mode with isLoose := false, isLeaf := true }

/-- The mode in which a rule itself counts: that around it, but for rules that set their own. -/
def Mode.around (mode : Mode) : Treatment → Mode
  | .loose | .tight => { mode with isLeaf := false }
  | .inherited | .leaf => mode

/-- What came of a match. -/
inductive Outcome where
  /-- The pattern matched up to a place, with the rules inside it. -/
  | matched (cursor : Cursor) (nodes : List Node) (attempts : Attempts)
  | failed (attempts : Attempts)
  /-- The steps ran out. -/
  | exhausted

/-- The place after the blanks that are free here. -/
def Mode.skip (mode : Mode) (cursor : Cursor) : Cursor :=
  if mode.isLoose then skipBlanks false cursor cursor.rest else cursor

/-- What came of a rule tried at a place, given what came of its pattern. -/
def Outcome.ofRule (rule : Rule) (mode : Mode) (start : Cursor) (before : Nat) : Outcome → Outcome
  | .matched cursor nodes attempts =>
    if mode.isLeaf then .matched cursor [] attempts
    else
      let text := String.ofList (start.rest.take (cursor.index - start.index))
      let node := .node rule text ⟨start.offset, cursor.offset⟩ start.line nodes
      .matched cursor [node] attempts
  | .failed attempts =>
    if mode.isTracked && !mode.isLeaf then .failed (attempts.failing rule start.offset before)
    else .failed attempts
  | .exhausted => .exhausted

mutual

/-- Matches a pattern at a place, in at most a number of nested steps. -/
def run : Nat → Mode → Pattern → Cursor → Attempts → Outcome
  | 0, _, _, _, _ => .exhausted
  | steps + 1, mode, pattern, cursor, attempts =>
    match pattern with
    | .finish => if cursor.rest.isEmpty then .matched cursor [] attempts else .failed attempts
    | .char kind =>
      match cursor.rest with
      | c :: rest =>
        if kind.holds c then .matched (cursor.past c rest) [] attempts else .failed attempts
      | [] => .failed attempts
    | .text text =>
      match cursor.pastText? text with
      | some after => .matched after [] attempts
      | none => .failed attempts
    | .rule rule =>
      let definition := rule.definition
      -- Failures known by now are not of this rule, and stay whatever comes of it.
      let before := attempts.countAt cursor.offset
      (run steps (mode.inside definition.treatment) definition.pattern cursor attempts).ofRule rule
        (mode.around definition.treatment) cursor before
    | .both first second =>
      match run steps mode first cursor attempts with
      | .matched cursor nodes attempts =>
        -- Free blanks stand between the two, not before the first or behind the second.
        match run steps mode second (mode.skip cursor) attempts with
        | .matched cursor more attempts => .matched cursor (nodes ++ more) attempts
        | outcome => outcome
      | outcome => outcome
    | .either first second =>
      match run steps mode first cursor attempts with
      -- The order of alternatives decides: the second is tried only where the first failed.
      | .failed attempts => run steps mode second cursor attempts
      | outcome => outcome
    | .optional inner =>
      match run steps mode inner cursor attempts with
      | .failed attempts => .matched cursor [] attempts
      | outcome => outcome
    | .many inner =>
      match run steps mode inner cursor attempts with
      | .matched cursor nodes attempts => runMore steps mode inner cursor nodes.reverse attempts
      | .failed attempts => .matched cursor [] attempts
      | .exhausted => .exhausted
    | .absent inner =>
      -- What must not stand here was never expected, so its failures do not count.
      match run steps { mode with isTracked := false } inner cursor attempts with
      | .matched .. => .failed attempts
      | .failed _ => .matched cursor [] attempts
      | .exhausted => .exhausted

/-- Matches a pattern again and again, given the rules found so far, the last one first. -/
def runMore : Nat → Mode → Pattern → Cursor → List Node → Attempts → Outcome
  | 0, _, _, _, _, _ => .exhausted
  | steps + 1, mode, inner, cursor, found, attempts =>
    match run steps mode inner (mode.skip cursor) attempts with
    | .matched after nodes attempts =>
      runMore steps mode inner after (nodes.reverse ++ found) attempts
    -- The blanks before the attempt that failed are given back.
    | .failed attempts => .matched cursor found.reverse attempts
    | .exhausted => .exhausted

end

section Steps

variable (steps : Nat) (mode : Mode) (cursor : Cursor) (attempts : Attempts)

/-- One step on the end of a text. -/
theorem run_succ_finish : run (steps + 1) mode .finish cursor attempts =
    if cursor.rest.isEmpty then .matched cursor [] attempts else .failed attempts := rfl

/-- One step on a code point of a class. -/
theorem run_succ_char (kind : CharClass) : run (steps + 1) mode (.char kind) cursor attempts =
    match cursor.rest with
    | c :: rest =>
      if kind.holds c then .matched (cursor.past c rest) [] attempts else .failed attempts
    | [] => .failed attempts := rfl

/-- One step on a fixed text. -/
theorem run_succ_text (text : List Char) : run (steps + 1) mode (.text text) cursor attempts =
    match cursor.pastText? text with
    | some after => .matched after [] attempts
    | none => .failed attempts := rfl

/-- One step on a rule. -/
theorem run_succ_rule (rule : Rule) : run (steps + 1) mode (.rule rule) cursor attempts =
    (run steps (mode.inside rule.definition.treatment) rule.definition.pattern cursor
      attempts).ofRule rule (mode.around rule.definition.treatment) cursor
        (attempts.countAt cursor.offset) := rfl

/-- One step on two patterns one after the other. -/
theorem run_succ_both (first second : Pattern) :
    run (steps + 1) mode (.both first second) cursor attempts =
      match run steps mode first cursor attempts with
      | .matched cursor nodes attempts =>
        match run steps mode second (mode.skip cursor) attempts with
        | .matched cursor more attempts => .matched cursor (nodes ++ more) attempts
        | outcome => outcome
      | outcome => outcome := rfl

/-- One step on two alternatives. -/
theorem run_succ_either (first second : Pattern) :
    run (steps + 1) mode (.either first second) cursor attempts =
      match run steps mode first cursor attempts with
      | .failed attempts => run steps mode second cursor attempts
      | outcome => outcome := rfl

/-- One step on a pattern that may be missing. -/
theorem run_succ_optional (inner : Pattern) :
    run (steps + 1) mode (.optional inner) cursor attempts =
      match run steps mode inner cursor attempts with
      | .failed attempts => .matched cursor [] attempts
      | outcome => outcome := rfl

/-- One step on a pattern that may be repeated. -/
theorem run_succ_many (inner : Pattern) : run (steps + 1) mode (.many inner) cursor attempts =
    match run steps mode inner cursor attempts with
    | .matched cursor nodes attempts => runMore steps mode inner cursor nodes.reverse attempts
    | .failed attempts => .matched cursor [] attempts
    | .exhausted => .exhausted := rfl

/-- One step on what must not stand there. -/
theorem run_succ_absent (inner : Pattern) : run (steps + 1) mode (.absent inner) cursor attempts =
    match run steps { mode with isTracked := false } inner cursor attempts with
    | .matched .. => .failed attempts
    | .failed _ => .matched cursor [] attempts
    | .exhausted => .exhausted := rfl

/-- One step on further repetitions. -/
theorem runMore_succ (inner : Pattern) (found : List Node) :
    runMore (steps + 1) mode inner cursor found attempts =
      match run steps mode inner (mode.skip cursor) attempts with
      | .matched after nodes attempts =>
        runMore steps mode inner after (nodes.reverse ++ found) attempts
      | .failed attempts => .matched cursor found.reverse attempts
      | .exhausted => .exhausted := rfl

end Steps

/-- The number of nested steps that a source of a length can need: each code point is reached
through boundedly many. -/
def stepLimit (length : Nat) : Nat := 256 * (length + 2)

/-- Matches a whole source against a rule. -/
def matchSource (rule : Rule) (source : List Char) : Outcome :=
  run (stepLimit source.length) ⟨true, false, true⟩ (.rule rule) (.start source) ⟨0, []⟩

/-- Names in a sentence: with commas, and an "or" before the last. -/
def enumerated (names : List String) : String :=
  match names.reverse with
  | [] => ""
  | [only] => only
  | last :: before => ", ".intercalate before.reverse ++ " or " ++ last

/-- The fault of a source that does not match: what was expected at the furthest place. -/
def Attempts.diagnostic (attempts : Attempts) (length : Nat) : Diagnostic :=
  let order := fun (a b : Rule) => decide (a.ctorIdx ≤ b.ctorIdx)
  let phrases := ((attempts.rules.mergeSort order).map Rule.phrase).eraseDups
  let message :=
    if phrases.isEmpty then "unexpected input" else "expected " ++ enumerated phrases
  { message
    label := "here"
    help := none
    span := ⟨attempts.offset, min (attempts.offset + 1) length⟩ }

end Reshape.Grammar
