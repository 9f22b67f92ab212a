import Reshape.Conformance
import Reshape.Storage
import Reshape.Yaml.Reader

/-!
Suites: a mapping with cases for it, as a YAML text. A case gives a message, as a text or as data
that stands for its JSON text, and what is expected of the mapping. Every file below a directory
whose name ends like that of a YAML text is a suite; one that is none counts as a failure under its
path.
-/

namespace Reshape

/-- A case of a suite. -/
structure Suite.Case where
  name : Option String
  input : Datum
  output : Option Datum
  /-- A part of the text of the expected error. -/
  error : Option String
  isDeleted : Bool
  isSkipped : Bool
  deriving Repr

/-- A mapping with cases for it. -/
structure Suite where
  mapping : String
  cases : List Suite.Case
  deriving Repr

namespace Suite

/-- The case that a node gives. -/
def Case.ofYaml? (node : Yaml) : Option Case := do
  let members ← node.members?
  return {
    name := ← Yaml.member? "name" none (Yaml.optional? Yaml.text?) members
    input := ← Yaml.required? "input" Datum.ofYaml? members
    output := ← Yaml.member? "output" none (Yaml.optional? Datum.ofYaml?) members
    error := ← Yaml.member? "error" none (Yaml.optional? Yaml.text?) members
    isDeleted := ← Yaml.member? "deleted" false Yaml.truth? members
    isSkipped := ← Yaml.member? "skip" false Yaml.truth? members }

/-- The suite that a node gives. -/
def ofYaml? (node : Yaml) : Option Suite := do
  let members ← node.members?
  let mapping ← Yaml.required? "mapping" Yaml.text? members
  let cases := fun node => do (← Yaml.items? node).mapM Case.ofYaml?
  return ⟨mapping, ← Yaml.member? "cases" [] cases members⟩

/-- The suite of a text that comes from a path. -/
def parse (path source : String) : Except Error Suite :=
  match (Yaml.parse? source).bind ofYaml? with
  | some suite => .ok suite
  | none => .error (.general (.malformedSuite path))

namespace Case

/-- The JSON text of a part of a case. -/
def json (part : String) (datum : Datum) : Except Error Json :=
  match datum.toJson? with
  | some json => .ok json
  | none => .error (.general (.unnamedKeys part))

/-- The content of the message. -/
def content (case : Case) : Except Error Bytes :=
  match case.input with
  | .text content => .ok (Utf8.ofText content)
  | input => do return Utf8.ofText (← json "input" input).compact

/-- What is expected: an error goes before a deletion, and that before an output. -/
def expectation (case : Case) : Except Error Expectation :=
  match case.error, case.isDeleted, case.output with
  | some part, _, _ => .ok (.error part)
  | none, true, _ => .ok .deleted
  | none, false, some (.text content) => .ok (.output (Value.ofContent (Utf8.ofText content)))
  | none, false, some output => do return .output (Value.ofJson (← json "output" output))
  | none, false, none => .error (.general .emptyCase)

/-- The verdict on a case that cannot be run. -/
def unrunnable (error : Error) : Verdict :=
  .failed "a runnable case" (Verdict.report (.error error))

/-- The name of a case, its position being counted from one. -/
def title (case : Case) (position : Nat) : String :=
  case.name.getD s!"case {position}"

/-- The verdict on a case of a mapping, and what the mapping keeps after it. -/
def judge (case : Case) (surroundings : Surroundings) (mapping : Except Error Mapping)
    (cells : List (Site × Cell)) : Check (Verdict × List (Site × Cell)) :=
  if case.isSkipped then return (.skipped "marked `skip`", cells)
  else match mapping, case.content, case.expectation with
    | .ok mapping, .ok content, .ok expectation =>
      mapping.judge surroundings cells content expectation
    | .error error, _, _ => return (unrunnable error, cells)
    | .ok _, .error error, _ => return (unrunnable error, cells)
    | .ok _, .ok _, .error error => return (unrunnable error, cells)

end Case

/-- The findings on cases from a position on. -/
def judgeCases (surroundings : Surroundings) (mapping : Except Error Mapping) (source : String)
    (position : Nat) (cells : List (Site × Cell)) : List Case → Check (List Finding)
  | [] => return []
  | case :: rest => do
    let (verdict, cells) ← case.judge surroundings mapping cells
    let findings ← judgeCases surroundings mapping source (position + 1) cells rest
    return ⟨source, case.title position, verdict⟩ :: findings

/-- The findings on the cases of a suite. A mapping that does not compile fails every case. -/
def run (suite : Suite) (environment : Environment) (surroundings : Surroundings)
    (source : String) : Check (List Finding) := do
  let mapping ← Check.compile (Mapping.compile environment suite.mapping)
  judgeCases surroundings mapping source 1 [] suite.cases

end Suite

end Reshape

namespace Reshape.Suite

/-- The part of a file's name behind its last dot; a dot that starts the name does not count. -/
def extension? (path : String) : Option String :=
  let name := (path.splitOn "/").getLastD ""
  match name.splitOn "." with
  | [_] | ["", _] => none
  | parts => parts.getLast?

/-- Whether the file of a path should be a suite. -/
def isSuitePath (path : String) : Bool :=
  extension? path = some "yaml" ∨ extension? path = some "yml"

/-- Whether a path stands no later than another one in the order of suites, which compares the
names on the paths one by one. -/
def precedes (a b : String) : Bool :=
  !decide (b.splitOn "/" < a.splitOn "/")

/-- The paths of the suites among files. -/
def select (paths : List String) : List String :=
  (paths.filter isSuitePath).mergeSort precedes

/-- What makes the content of a path a suite, or the reason why it is none. -/
def load (path : String) (content : Except Refusal String) : Except Error Suite :=
  match content with
  | .ok source => parse path source
  | .error refusal => .error (.files refusal.message)

variable {m : Type → Type} [Monad m]

/-- The paths of the suites below a directory. -/
def discover (storage : Storage m) (root : String) : m (List String) := do
  return select (← storage.files root)

/-- The suites below a directory, each under its path. -/
def loadAll (storage : Storage m) (root : String) : m (List (String × Except Error Suite)) := do
  (← discover storage root).mapM fun path => do
    return (path, load path (← storage.readText path))

/-- The findings on a suite, or the failure to load it. -/
def runLoaded (environment : Environment) (surroundings : Surroundings) (path : String) :
    Except Error Suite → Check (List Finding)
  | .ok suite => suite.run environment surroundings path
  | .error error =>
    return [⟨path, "load", .failed "a valid suite file" (Verdict.report (.error error))⟩]

/-- The findings on loaded suites. -/
def runAll (environment : Environment) (surroundings : Surroundings)
    (suites : List (String × Except Error Suite)) : Check (List Finding) := do
  let findings ← suites.mapM fun (path, suite) =>
    runLoaded environment surroundings path suite
  return findings.flatten

end Reshape.Suite
