/-!
Commands: what the arguments of a call ask for. Switches stand anywhere behind the verb they belong
to, the common ones also before it; two dashes make operands of all arguments behind them. The first
argument that is wrong decides how the call is refused.
-/

namespace Reshape

/-- What a call asks for. -/
inductive Command where
  /-- Map the messages of a file. -/
  | eval (mapping : String) (input : Option String) (isByLine : Bool)
  /-- Evaluate an expression on a message. -/
  | query (expression : String) (input : Option String)
  /-- List what a mapping reads. -/
  | targets (mapping : String)
  | functions (isJson : Bool)
  | methods (isJson : Bool)
  /-- Check the samples of the catalog. -/
  | check
  /-- Run the suites of a directory. -/
  | test (directory : String)
  deriving DecidableEq, Repr

/-- A call. -/
structure Invocation where
  /-- The file that configures the environment. -/
  config : Option String
  verbosity : Nat
  command : Command
  deriving DecidableEq, Repr

/-- How a call is refused. -/
inductive Usage where
  /-- Help is asked for. -/
  | help
  /-- The version is asked for. -/
  | version
  | noArguments
  | unknownArgument
  | unknownVerb
  | missingVerb
  | missingOperand
  | missingValue
  /-- A switch that takes no value has one. -/
  | surplusValue
  /-- A switch is used again that can be used once. -/
  | repeated
  deriving DecidableEq, Repr

namespace CommandLine

/-- A switch. -/
inductive Switch where
  | config
  | verbose
  | help
  | version
  | input
  | lines
  | json
  deriving DecidableEq, Repr

namespace Switch

/-- The name behind two dashes. -/
def name : Switch → String
  | .config => "config"
  | .verbose => "verbose"
  | .help => "help"
  | .version => "version"
  | .input => "input"
  | .lines => "lines"
  | .json => "json"

/-- The letter behind one dash. -/
def letter? : Switch → Option Char
  | .verbose => some 'v'
  | .help => some 'h'
  | .version => some 'V'
  | .input => some 'i'
  | _ => none

/-- Whether a path follows the switch. -/
def takesPath : Switch → Bool
  | .config | .input => true
  | _ => false

end Switch

/-- A verb. -/
inductive Verb where
  | eval
  | query
  | targets
  | functions
  | methods
  | check
  | test
  deriving DecidableEq, Repr

namespace Verb

/-- All verbs. -/
def all : List Verb := [.eval, .query, .targets, .functions, .methods, .check, .test]

/-- The verb as an argument. -/
def name : Verb → String
  | .eval => "eval"
  | .query => "query"
  | .targets => "targets"
  | .functions => "functions"
  | .methods => "methods"
  | .check => "check"
  | .test => "test"

/-- The verb that an argument is. -/
def ofName? (name : String) : Option Verb :=
  all.find? fun verb => verb.name = name

/-- The switches of its own. -/
def switches : Verb → List Switch
  | .eval => [.input, .lines]
  | .query => [.input]
  | .functions | .methods => [.json]
  | .targets | .check | .test => []

/-- How many operands there can be. -/
def operandLimit : Verb → Nat
  | .eval | .query | .targets | .test => 1
  | .functions | .methods | .check => 0

/-- Whether there has to be an operand. -/
def needsOperand : Verb → Bool
  | .eval | .query | .targets => true
  | _ => false

/-- Whether the operand is a path. -/
def takesPath : Verb → Bool
  | .query => false
  | _ => true

end Verb

/-- The verb that asks for help. -/
def helpVerb : String := "help"

/-- The switches behind a verb, or before all verbs. -/
def switchesAt (verb : Option Verb) : List Switch :=
  [.config, .verbose, .help] ++ verb.elim [.version] Verb.switches

/-- An argument whose meaning is known but which is not taken yet. -/
inductive Pending where
  /-- A switch, and the path that follows it once it is there. -/
  | switch (switch : Switch) (path : Option String)
  | operand (text : String)
  deriving DecidableEq, Repr

/-- What the arguments before or behind the verb have given. -/
structure Given where
  verb : Option Verb
  paths : List (Switch × String)
  flags : List Switch
  operands : List String
  pending : Option Pending
  /-- Whether all further arguments are operands. -/
  isOpen : Bool
  deriving Repr

namespace Given

/-- Nothing, before or behind a verb. -/
def nothing (verb : Option Verb) : Given := ⟨verb, [], [], [], none, false⟩

/-- Whether a path is given for a switch. -/
def hasPath (given : Given) (switch : Switch) : Bool :=
  given.paths.any fun (other, _) => other = switch

/-- Takes the pending argument. -/
def settle (given : Given) : Except Usage Given :=
  match given.pending with
  | none => .ok given
  | some (.switch _ none) => .error .missingValue
  | some (.switch switch (some path)) =>
    if given.hasPath switch then .error .repeated
    else if path.isEmpty then .error .missingValue
    else .ok { given with paths := (switch, path) :: given.paths, pending := none }
  | some (.operand text) =>
    if text.isEmpty && given.verb.any Verb.takesPath then .error .missingValue
    else .ok { given with operands := given.operands ++ [text], pending := none }

/-- Takes a switch that stands for itself. -/
def flag (given : Given) (switch : Switch) : Except Usage Given := do
  let given ← given.settle
  match switch with
  | .help => throw .help
  | .version => throw .version
  | .verbose => return { given with flags := .verbose :: given.flags }
  | switch =>
    if given.flags.contains switch then throw .repeated
    else return { given with flags := switch :: given.flags }

/-- Takes a switch with the path that follows it, or that is still to follow. -/
def path (given : Given) (switch : Switch) (path : Option String) : Except Usage Given := do
  let given := { ← given.settle with pending := some (.switch switch path) }
  if path.isSome then given.settle else return given

/-- Takes an operand. -/
def operand (given : Given) (text : String) : Except Usage Given := do
  match given.verb with
  | none =>
    let isVerb := (Verb.ofName? text).isSome || text = helpVerb
    throw (if given.isOpen && isVerb then .unknownArgument else .unknownVerb)
  | some verb =>
    let isPending := given.pending.any fun | .operand _ => true | .switch .. => false
    let count := given.operands.length + if isPending then 1 else 0
    if verb.operandLimit ≤ count then throw .unknownArgument
    else return { ← given.settle with pending := some (.operand text) }

/-- Takes an argument behind two dashes: a name, perhaps with a path behind an equals sign. -/
def long (given : Given) (argument : List Char) : Except Usage Given :=
  let name := String.ofList (argument.takeWhile (· != '='))
  let path := match argument.dropWhile (· != '=') with
    | _ :: path => some (String.ofList path)
    | [] => none
  match (switchesAt given.verb).find? fun switch => switch.name = name with
  | none => .error .unknownArgument
  | some switch =>
    if switch.takesPath then given.path switch path
    else if path.isSome then .error .surplusValue
    else given.flag switch

/-- Takes the letters behind one dash; what follows the letter of a switch with a path is the
path. -/
def short (given : Given) : List Char → Except Usage Given
  | [] => .ok given
  | letter :: rest =>
    match (switchesAt given.verb).find? fun switch => switch.letter? = some letter with
    | none => .error .unknownArgument
    | some switch =>
      if switch.takesPath then
        given.path switch <| match rest with
          | [] => none
          | '=' :: path => some (String.ofList path)
          | path => some (String.ofList path)
      else do (← given.flag switch).short rest

/-- Whether the next argument is the path of a switch, unless it is a switch. -/
def awaitsPath (given : Given) : Bool :=
  given.pending.any fun
    | .switch _ path => path.isNone
    | .operand _ => false

/-- Takes an argument that is no verb. -/
def take (given : Given) (argument : String) : Except Usage Given :=
  if given.isOpen then given.operand argument
  else match argument.toList with
    | ['-', '-'] => .ok { given with isOpen := true }
    | '-' :: '-' :: rest => given.long rest
    | '-' :: letter :: rest => given.short (letter :: rest)
    | _ =>
      match given.pending with
      | some (.switch switch none) =>
        .ok { given with pending := some (.switch switch (some argument)) }
      | _ => given.operand argument

/-- The path that is given for a switch. -/
def path? (given : Given) (switch : Switch) : Option String :=
  given.paths.lookup switch

/-- What the arguments behind a verb give, none being left to take. -/
def finish (given : Given) : Except Usage Given := do
  let given ← given.settle
  if given.operands.isEmpty && given.verb.any Verb.needsOperand then throw .missingOperand
  else return given

/-- The command of a verb with its operands and switches. -/
def command (given : Given) (verb : Verb) : Command :=
  let operand := given.operands.headD ""
  let isJson := given.flags.contains .json
  match verb with
  | .eval => .eval operand (given.path? .input) (given.flags.contains .lines)
  | .query => .query operand (given.path? .input)
  | .targets => .targets operand
  | .functions => .functions isJson
  | .methods => .methods isJson
  | .check => .check
  | .test => .test (given.operands.headD "tests/suites")

/-- How often more messages about the run are asked for. -/
def verbosity (given : Given) : Nat :=
  given.flags.count .verbose

end Given

/-- How a call for help is answered, given the names that it is about. -/
def helpUsage : List String → Usage
  | [] => .help
  | [name] => if (Verb.ofName? name).isSome || name = helpVerb then .help else .unknownVerb
  | _ => .unknownVerb

/-- The call that arguments behind a verb make, given what stands before it. What is said behind the
verb counts more. -/
def readBehind (before : Given) (verb : Verb) (arguments : List String) :
    Except Usage Invocation := do
  let behind ← (← arguments.foldlM Given.take (.nothing (some verb))).finish
  let before ← before.settle
  let verbosity := if behind.verbosity = 0 then before.verbosity else behind.verbosity
  return ⟨(behind.path? .config).or (before.path? .config), verbosity, behind.command verb⟩

/-- The call that arguments make, given what stands before them. -/
def readFrom (before : Given) : List String → Except Usage Invocation
  | [] => do
    let before ← before.settle
    throw (if before.paths.isEmpty && before.flags.isEmpty then .noArguments else .missingVerb)
  | argument :: rest =>
    if before.isOpen || before.awaitsPath then do readFrom (← before.take argument) rest
    else if argument = helpVerb then .error (helpUsage rest)
    else match Verb.ofName? argument with
      | some verb => readBehind before verb rest
      | none => do readFrom (← before.take argument) rest

end CommandLine

/-- The call that arguments make. -/
def Invocation.ofArguments (arguments : List String) : Except Usage Invocation :=
  CommandLine.readFrom (.nothing none) arguments

end Reshape
