import Reshape.Mapping

/-!
Conformance: mappings run on given messages, and what they make of them compared with what is
expected. The samples of the catalog are such cases.
-/

namespace Reshape

/-- What is expected of a mapping. -/
inductive Expectation where
  /-- A content: the value that it holds, or its text. -/
  | output (value : Value)
  /-- An error whose text has a part. -/
  | error (part : String)
  /-- The message is deleted. -/
  | deleted
  deriving Repr

/-- What became of a case. -/
inductive Verdict where
  | passed
  | failed (expected actual : String)
  | skipped (reason : String)
  deriving DecidableEq, Repr

/-- A case with what became of it. -/
structure Finding where
  /-- What the case belongs to. -/
  source : String
  name : String
  verdict : Verdict
  deriving DecidableEq, Repr

/-- How many cases passed, failed and were skipped. -/
structure Summary where
  passed : Nat
  failed : Nat
  skipped : Nat
  deriving DecidableEq, Repr

/-- The counts of findings. -/
def Summary.of (findings : List Finding) : Summary :=
  findings.foldl
    (fun summary finding =>
      match finding.verdict with
      | .passed => { summary with passed := summary.passed + 1 }
      | .failed .. => { summary with failed := summary.failed + 1 }
      | .skipped _ => { summary with skipped := summary.skipped + 1 })
    ⟨0, 0, 0⟩

/-- Checking: what is shared by all mappings changes, and compilation may give warnings. -/
abbrev Check := StateT Shared (StateM (List String))

namespace Check

/-- The outcome of compilation. -/
def compile {α : Type} (action : Compile α) : Check (Except Error α) :=
  fun shared warnings => let (outcome, after) := action.run warnings; ((outcome, shared), after)

/-- The outcome of an evaluation, given what its mapping keeps, and what it keeps after it. -/
def evaluate {α : Type} (cells : List (Site × Cell)) (action : Eval α) :
    Check (Except Error α × List (Site × Cell)) := do
  let (outcome, memory) := action.run ⟨cells, ← get⟩
  set memory.shared
  return (outcome, memory.cells)

end Check

/-- The value that a content holds, or else its text. -/
def Value.ofContent (content : Bytes) : Value :=
  (Value.parseJsonOctets? content).getD (.string (Utf8.toText content))

/-- The text that reports a value: a string as it is, and anything else with one line per part. -/
def Value.report : Value → String
  | .string text => text
  | value => value.pretty

namespace Expectation

/-- The inner part of a text between brackets that ends it, behind a head. -/
def enclosed? (head text : List Char) : Option (List Char) := do
  let rest ← Search.dropStart head text
  let reversed ← Search.dropStart [')'] rest.reverse
  return reversed.reverse

/-- The expectation that a sample notes. -/
def ofText (text : String) : Expectation :=
  if text = "Deleted()" then .deleted
  else match enclosed? "Error(".toList text.toList with
    | some part => .error (String.ofList part)
    | none => .output (Value.ofContent (Utf8.ofText text))

/-- The text that reports an expectation. -/
def report : Expectation → String
  | .output value => value.report
  | .error part => s!"an error containing `{part}`"
  | .deleted => "the message to be deleted"

/-- Whether what became of a message is as expected. -/
def isMet (expectation : Expectation) : Except Error (Option Value) → Bool
  | .ok (some value) =>
    match expectation with
    | .output expected => value == expected
    | _ => false
  | .ok none =>
    match expectation with
    | .deleted => true
    | _ => false
  | .error failure =>
    match expectation with
    | .error part => Search.occurs part.toList failure.message.toList
    | _ => false

end Expectation

namespace Verdict

/-- The text that reports what became of a message. -/
def report : Except Error (Option Value) → String
  | .ok (some value) => value.report
  | .ok none => "deleted message"
  | .error error => s!"error: {error.message}"

/-- The verdict on what became of a message. -/
def of (expectation : Expectation) (outcome : Except Error (Option Value)) : Verdict :=
  if expectation.isMet outcome then .passed
  else .failed expectation.report (report outcome)

end Verdict

namespace Mapping

/-- The verdict on a mapping with a message of its own, and what the mapping keeps after it. -/
def judge (mapping : Mapping) (surroundings : Surroundings) (cells : List (Site × Cell))
    (content : Bytes) (expectation : Expectation) : Check (Verdict × List (Site × Cell)) := do
  let action := mapping.map surroundings [Message.ofOctets content] 0
  let (outcome, cells) ← Check.evaluate cells action
  let result := outcome.map fun message => message.map fun message => Value.ofContent message.raw
  return (.of expectation result, cells)

/-- The findings on the results of a sample, from a position on. -/
def judgeSample (mapping : Mapping) (surroundings : Surroundings) (source name : String)
    (position : Nat) (cells : List (Site × Cell)) :
    List (String × String) → Check (List Finding)
  | [] => return []
  | (input, expected) :: rest => do
    let (verdict, cells) ←
      mapping.judge surroundings cells (Utf8.ofText input) (.ofText expected)
    let findings ← judgeSample mapping surroundings source name (position + 1) cells rest
    return ⟨source, s!"{name} #{position}", verdict⟩ :: findings

end Mapping

namespace Environment

/-- The findings on a sample at a position. -/
def checkSample (environment : Environment) (surroundings : Surroundings) (source : String)
    (sample : Sample) (position : Nat) : Check (List Finding) := do
  let name := s!"example {position + 1} ({sample.summary})"
  if !sample.isTested then return [⟨source, name, .skipped "marked as not testable"⟩]
  else match ← Check.compile (Mapping.compile environment sample.mapping) with
    | .ok mapping => mapping.judgeSample surroundings source name 1 [] sample.results
    | .error error =>
      let report := Verdict.report (.error error)
      return [⟨source, name, .failed "the mapping to compile" report⟩]

/-- The findings on the samples of an entry; there has to be a sample. -/
def checkEntry (environment : Environment) (surroundings : Surroundings) (source : String)
    (notes : Notes) : Check (List Finding) := do
  if notes.samples.isEmpty then
    return [⟨source, "examples", .failed "at least one example" "none"⟩]
  else
    let findings ← notes.samples.zipIdx.mapM fun (sample, position) =>
      environment.checkSample surroundings source sample position
    return findings.flatten

/-- The findings on the samples of all functions and methods. -/
def check (environment : Environment) (surroundings : Surroundings) : Check (List Finding) := do
  let functions := environment.functions.map fun (name, entry) => (name ++ "()", entry.notes)
  let methods := environment.methods.map fun (name, entry) => ("." ++ name ++ "()", entry.notes)
  let findings ← (functions ++ methods).mapM fun (source, notes) =>
    environment.checkEntry surroundings source notes
  return findings.flatten

end Environment

end Reshape
