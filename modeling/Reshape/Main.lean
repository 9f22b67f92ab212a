import Reshape.CommandLine.Run
import Std.Time.DateTime.Timestamp

/-!
The command line. Files, the clock, the variables of the process and its streams are met here only.
The suites to run are named on standard input, one path per line.
-/

namespace Reshape.Main

/-- Why the system refuses to read. -/
def refusal : IO.Error → Refusal
  | .noFileOrDirectory .. => .missing
  | .inappropriateType _ code _ => if code = 21 then .directory else .notDirectory
  | error => .other (toString error)

/-- The content of a file. -/
def read (path : String) : IO (Except Refusal Bytes) := do
  try
    return .ok (← IO.FS.readBinFile path).toList
  catch error =>
    return .error (refusal error)

/-- Whether a path leads to a directory: only there the directory itself can be opened by a dot. -/
def isDirectory (path : String) : IO Bool := do
  try
    let _ ← IO.FS.Handle.mk (path ++ "/.") .read
    return true
  catch _ =>
    return false

/-- All octets of standard input. -/
def readInput : IO Bytes := do
  return (← (← IO.getStdin).readBinToEnd).toList

/-- The paths below a directory, among those named on standard input. -/
def namedFiles (directory : String) : IO (List String) := do
  let lines := (Utf8.toText (← readInput)).splitOn "\n"
  let mark := if directory.endsWith "/" then directory else directory ++ "/"
  return lines.filter fun path => path.startsWith mark

/-- The files of the system. -/
def storage : Storage IO := ⟨read, isDirectory, namedFiles, readInput⟩

/-- The name and the value that an entry of the process's variables gives. -/
def binding? (entry : Bytes) : Option (String × String) := do
  let (name, value) ← Search.cut [0x3D] entry
  return (← Utf8.toText? name, ← Utf8.toText? value)

/-- The variables of the process, as the system lists them. -/
def processVariables : IO (List (String × String)) := do
  match ← read "/proc/self/environ" with
  | .ok content => return (List.splitOn 0 content).filterMap binding?
  | .error _ => return []

/-- The point in time of the system's clock. -/
def now : IO Instant := do
  let elapsed := (← Std.Time.Timestamp.now).toNanosecondsSinceUnixEpoch.toInt
  return ⟨elapsed.fdiv 1000000000, (elapsed.fmod 1000000000).toNat⟩

/-- What mappings can learn of the system. -/
def surroundings : IO Surroundings := do
  return ⟨← processVariables, ← now⟩

/-- A seed that no one can foresee. -/
def seed : IO UInt64 := do
  return (← IO.getRandomBytes 8).foldl (fun value octet => value * 256 + octet.toUInt64) 0

/-- How the program is called. -/
def help : String :=
  "Run, inspect and test mappings that reshape structured messages.\n\n" ++
  "Usage: mapling [--config FILE] [-v...] COMMAND\n\n" ++
  "  eval FILE [-i FILE] [--lines]  Run a mapping file against a message\n" ++
  "  query EXPRESSION [-i FILE]     Evaluate an expression against a message\n" ++
  "  targets FILE                   List the input paths a mapping reads\n" ++
  "  functions [--json]             List the available functions\n" ++
  "  methods [--json]               List the available methods\n" ++
  "  check                          Run the documented examples\n" ++
  "  test [PATH]                    Run the test suites in a directory"

/-- What is wrong with a call. -/
def complaint : Usage → String
  | .help | .version | .noArguments => help
  | .unknownArgument => "unexpected argument"
  | .unknownVerb => "unrecognized subcommand"
  | .missingVerb => "a subcommand is required but none was provided"
  | .missingOperand => "a required argument was not provided"
  | .missingValue => "a value is required but none was supplied"
  | .surplusValue => "unexpected value"
  | .repeated => "an argument cannot be used multiple times"

/-- Answers a call that runs no command, and gives the exit code. -/
def refuse (usage : Usage) : IO UInt32 := do
  match usage with
  | .help => IO.println help; return 0
  | .version => IO.println "mapling 0.1.0"; return 0
  | usage => IO.eprintln (complaint usage); return 2

/-- Runs a call, and gives the exit code. -/
def execute (invocation : Invocation) : IO UInt32 := do
  let check ← invocation.run storage (← surroundings)
  let ((report, _), warnings) := (check.run (.seeded (← seed))).run []
  for warning in warnings do IO.eprintln warning
  for line in report.lines do IO.println line
  match report.outcome with
  | .ok isWell => return if isWell then 0 else 1
  | .error error => IO.eprintln s!"{error.code}: {error.message}"; return 1

end Reshape.Main

/-- The program. -/
def main (arguments : List String) : IO UInt32 :=
  match Reshape.Invocation.ofArguments arguments with
  | .ok invocation => Reshape.Main.execute invocation
  | .error usage => Reshape.Main.refuse usage
