import Reshape.Catalog.Listing
import Reshape.CommandLine.Command
import Reshape.CommandLine.Difference
import Reshape.Conformance.Suite
import Reshape.Environment

/-!
Running commands. What a command reads is loaded first; from there on it only computes, so that the
lines that it prints and its outcome are a function of what was loaded.
-/

namespace Reshape

/-- A command with what it reads. -/
inductive Task where
  | eval (mapping : Except Error String) (input : Except Error Bytes) (isByLine : Bool)
  | query (expression : String) (input : Except Error Bytes)
  | targets (mapping : Except Error String)
  | functions (isJson : Bool)
  | methods (isJson : Bool)
  | check
  | test (directory : String) (isDirectory : Bool)
    (suites : List (String × Except Error Suite))

/-- The lines that a command has printed, and whether all was well. -/
structure Report where
  lines : List String
  outcome : Except Error Bool

namespace Task

variable {m : Type → Type} [Monad m]

/-- What was read at a path, or the failure to read it. -/
def readable {α : Type} (path : String) (content : Except Refusal α) : Except Error α :=
  content.mapError fun refusal => .general (.unreadable path refusal.message)

/-- The text of a file. -/
def loadText (storage : Storage m) (path : String) : m (Except Error String) := do
  return readable path (← storage.readText path)

/-- The content of a file, or what is read where no path is given. -/
def loadInput (storage : Storage m) : Option String → m (Except Error Bytes)
  | some path => do return readable path (← storage.read path)
  | none => do return .ok (← storage.input)

/-- A command with what it reads. -/
def load (storage : Storage m) : Command → m Task
  | .eval mapping input isByLine => do
    return .eval (← loadText storage mapping) (← loadInput storage input) isByLine
  | .query expression input => do return .query expression (← loadInput storage input)
  | .targets mapping => do return .targets (← loadText storage mapping)
  | .functions isJson => return .functions isJson
  | .methods isJson => return .methods isJson
  | .check => return .check
  | .test directory => do
    if ← storage.isDirectory directory then
      return .test directory true (← Suite.loadAll storage directory)
    else return .test directory false []

end Task

/-- Running a command: lines are printed until it ends or fails. -/
abbrev Work := ExceptT Error (StateT (List String) Check)

namespace Work

/-- Prints lines. -/
def print (lines : List String) : Work Unit :=
  modify (· ++ lines)

/-- Goes on with what checking gives. -/
def check {α : Type} (action : Check α) : Work α :=
  liftM (m := StateT (List String) Check) (liftM action)

/-- What a source compiles to. -/
def compile {α : Type} (action : Compile α) : Work α := do
  liftExcept (← check (Check.compile action))

end Work

namespace Finding

/-- The lines that show a finding. -/
def lines (finding : Finding) : List String :=
  match finding.verdict with
  | .passed => [s!"✓ {finding.source} {finding.name}"]
  | .skipped reason => [s!"- {finding.source} {finding.name} (skipped: {reason})"]
  | .failed expected actual =>
    s!"✗ {finding.source} {finding.name}" ::
      (Difference.between expected actual).flatMap Difference.report

end Finding

/-- The lines that show counts. -/
def Summary.lines (summary : Summary) : List String :=
  ["", "Summary", s!"  passed:  {summary.passed}"] ++
    (if summary.failed = 0 then [] else [s!"  failed:  {summary.failed}"]) ++
    (if summary.skipped = 0 then [] else [s!"  skipped: {summary.skipped}"])

namespace Task

/-- The messages of an input: one, or one for each line that is not blank. -/
def messages (isByLine : Bool) (input : Bytes) : Batch :=
  if isByLine then
    ((List.splitOn 0x0A input).filter fun line => !line.all Text.isBlankOctet).map
      Message.ofOctets
  else [.ofOctets input]

/-- Prints what a mapping makes of the messages at some positions of a batch. -/
def printMapped (surroundings : Surroundings) (mapping : Mapping) (batch : Batch)
    (cells : List (Site × Cell)) : List Nat → Work Unit
  | [] => return
  | index :: rest => do
    let (outcome, cells) ← Work.check (Check.evaluate cells (mapping.map surroundings batch index))
    match ← liftExcept outcome with
    | some message => Work.print [Utf8.toText message.raw]
    | none => pure ()
    printMapped surroundings mapping batch cells rest

/-- Prints the value of an expression on a message. -/
def printValue (surroundings : Surroundings) (expr : Expr) (message : Message) : Work Unit := do
  let context := { Context.bare surroundings with
    value := message.value?, batch := some [message] }
  let (outcome, _) ← Work.check (Check.evaluate [] ((expr.denote []).run context))
  Work.print [(← liftExcept outcome).report]

/-- Prints findings and their counts, and tells whether none is a failure. -/
def printFindings (findings : List Finding) : Work Bool := do
  let summary := Summary.of findings
  Work.print (findings.flatMap Finding.lines ++ summary.lines)
  return summary.failed = 0

/-- Prints the entries of a listing. -/
def printListing (mark : String) (isJson : Bool) (listings : List Listing) : Work Unit :=
  Work.print <|
    if isJson then [(Json.array (listings.map Listing.toJson)).pretty "  "]
    else Listing.lines mark listings

/-- Does a task, and tells whether all was well. -/
def run (environment : Environment) (surroundings : Surroundings) : Task → Work Bool
  | .eval mapping input isByLine => do
    let mapping ← Work.compile (Mapping.compile environment (← liftExcept mapping))
    let batch := messages isByLine (← liftExcept input)
    printMapped surroundings mapping batch [] (List.range batch.length)
    return true
  | .query expression input => do
    let expr ← Work.compile (Expr.compile environment expression)
    printValue surroundings expr (.ofOctets (← liftExcept input))
    return true
  | .targets mapping => do
    let mapping ← Work.compile (Mapping.compile environment (← liftExcept mapping))
    Work.print (mapping.dependencies.map Dependency.text)
    return true
  | .functions isJson => do
    printListing "" isJson environment.functionListing
    return true
  | .methods isJson => do
    printListing "." isJson environment.methodListing
    return true
  | .check => do printFindings (← Work.check (environment.check surroundings))
  | .test directory isDirectory suites => do
    if !isDirectory then throw (.general (.noDirectory directory))
    let findings ← Work.check (Suite.runAll environment surroundings suites)
    if findings.isEmpty then Work.print [s!"No test suites found in {directory}"]
    printFindings findings

end Task

namespace Invocation

variable {m : Type → Type} [Monad m]

/-- The environment that a call runs in. -/
def loadEnvironment (storage : Storage m) (invocation : Invocation) :
    m (Except Error Environment) := do
  match invocation.config with
  | none => return .ok .standard
  | some path =>
    match ← storage.readText path with
    | .ok source => return (Config.parse source).map Environment.ofConfig
    | .error refusal => return .error (.files refusal.message)

/-- Runs a call. -/
def run (storage : Storage m) (surroundings : Surroundings) (invocation : Invocation) :
    m (Check Report) := do
  let environment ← invocation.loadEnvironment storage
  let task ← Task.load storage invocation.command
  return do
    let work : Work Bool := do task.run (← liftExcept environment) surroundings
    let (outcome, lines) ← work.run []
    return ⟨lines, outcome⟩

end Invocation

end Reshape
