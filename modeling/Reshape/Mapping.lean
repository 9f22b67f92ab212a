import Reshape.Eval.Denote
import Reshape.Expr.Compile
import Reshape.Expr.Dependency

/-!
Mappings: statements that build a document and metadata from a message. The document starts as
nothing, and a mapping that leaves it so passes the message's own value on. The first statement that
fails ends the run.
-/

namespace Reshape

/-- What a statement assigns to. -/
inductive Target where
  /-- A part of the document, or all of it. -/
  | root (path : List String)
  /-- A key of the metadata, or all of it. -/
  | metadata (key : Option String)
  | variable (name : String)
  deriving DecidableEq, Repr

/-- The target as a statement would write it. -/
def Target.text : Target → String
  | .root path => ".".intercalate ("root" :: path)
  | .metadata (some key) => "meta " ++ key
  | .metadata none => "meta"
  | .variable name => "let " ++ name

/-- A statement. -/
structure Statement where
  line : Nat
  target : Target
  expr : Expr
  deriving Repr

/-- The statements of a source, in order. -/
structure Mapping where
  statements : List Statement
  deriving Repr

/-- What statements have assigned so far. -/
structure Draft where
  root : Value
  metadata : Fields Value
  locals : Fields Value
  deriving Repr

/-- What a mapping runs on. -/
structure Input where
  value : Option Value
  metadata : Fields Value
  batch : Option Batch
  index : Nat
  deriving Repr

/-- What a mapping makes of its input; the document may be the marker to delete the message. -/
structure Output where
  root : Value
  metadata : Fields Value
  deriving Repr

namespace Draft

/-- The document with a value at a path; it becomes an object if it is not there. -/
def assignRoot (path : List String) (value root : Value) : Value :=
  match path, value with
  | [], value => value
  | path, .delete => root.deletePath path
  | path, value => Value.set path value (if root.isMarker then .object [] else root)

/-- Fields with a value under a name; the marker to delete removes the name. -/
def assignField (name : String) (value : Value) (fields : Fields Value) : Fields Value :=
  match value with
  | .delete => fields.erase name
  | value => fields.insert name value

/-- The draft after an assignment; the marker to leave the target changes nothing. -/
def assign (draft : Draft) (target : Target) (value : Value) : Except Error Draft :=
  match value, target with
  | .nothing, _ => .ok draft
  | value, .root path => .ok { draft with root := assignRoot path value draft.root }
  | value, .metadata (some key) =>
    .ok { draft with metadata := assignField key value draft.metadata }
  | .delete, .metadata none => .ok { draft with metadata := [] }
  | .object fields, .metadata none => .ok { draft with metadata := fields }
  | value, .metadata none => .error (.expected "object" value)
  | value, .variable name =>
    .ok { draft with locals := assignField name value draft.locals }

end Draft

namespace Mapping

/-- The target that a statement writes. -/
def target : Place → Compile Target
  | .variable name => return .variable (← Compile.segment name)
  | .metadata none => return .metadata none
  | .metadata (some key) => return .metadata (some (← Compile.segment key))
  | .root path => return .root (← path.mapM Compile.segment)
  | .input span =>
    Compile.fail span "cannot assign to `this`" "assignment target"
      (some "assign to `root` to build the new document")

/-- The statement that a source writes. -/
def statement (environment : Environment) (sentence : Sentence) : Compile Statement := do
  let target ← target sentence.place
  return ⟨sentence.line, target, ← sentence.term.compile ⟨environment, 0, []⟩⟩

/-- The mapping of a source. -/
def compile (environment : Environment) (source : String) : Compile Mapping :=
  match Sentence.read source with
  | .ok sentences => return ⟨← sentences.mapM (statement environment)⟩
  | .error diagnostic => throw (.source diagnostic)

/-- What a statement can read. -/
def context (surroundings : Surroundings) (input : Input) (draft : Draft) : Context :=
  { Context.bare surroundings with
    value := input.value
    root := some draft.root
    locals := draft.locals
    metadata := draft.metadata
    batch := input.batch
    index := input.index }

/-- The draft after a statement at a position. -/
def execute (surroundings : Surroundings) (input : Input) (position : Nat) (statement : Statement)
    (draft : Draft) : Eval Draft :=
  let query := statement.expr.denote [position]
  ExceptT.adapt (fun error => .assignment statement.line (error.label query.label)) do
    let value ← query.run (context surroundings input draft)
    Eval.ofExcept (draft.assign statement.target value)

/-- The draft after statements from a position on. -/
def executeAll (surroundings : Surroundings) (input : Input) (position : Nat) (draft : Draft) :
    List Statement → Eval Draft
  | [] => pure draft
  | statement :: rest => do
    executeAll surroundings input (position + 1)
      (← execute surroundings input position statement draft) rest

/-- The draft before any statement: no document, and the metadata of the input. -/
def start (input : Input) : Draft := ⟨.nothing, input.metadata, []⟩

/-- What a draft makes of an input: a document that nothing was assigned to is the input's own. -/
def output (input : Input) (draft : Draft) : Output :=
  let root := match draft.root with
    | .nothing => input.value.getD .nothing
    | root => root
  ⟨root, draft.metadata⟩

/-- What a mapping makes of its input. -/
def run (mapping : Mapping) (surroundings : Surroundings) (input : Input) : Eval Output := do
  return output input (← executeAll surroundings input 0 (start input) mapping.statements)

/-- The document that a mapping makes of a value. -/
def query (mapping : Mapping) (surroundings : Surroundings) (value : Value) : Eval Value := do
  return (← mapping.run surroundings ⟨some value, [], none, 0⟩).root

/-- What a mapping makes of a message of a batch; none if it deletes the message. -/
def map (mapping : Mapping) (surroundings : Surroundings) (batch : Batch) (index : Nat) :
    Eval (Option Message) :=
  match batch[index]? with
  | none => Eval.fail (.general (.messageOutOfBounds index))
  | some message => do
    let input : Input := ⟨message.value?, message.metadata, some batch, index⟩
    let output ← mapping.run surroundings input
    let mapped := { message with metadata := output.metadata }
    match output.root with
    | .delete => return none
    | .nothing => return some mapped
    | root => return some (mapped.withValue root)

/-- The inputs that a mapping may read, each once, in the order in which it names them first. -/
def dependencies (mapping : Mapping) : List Dependency :=
  (mapping.statements.flatMap fun statement => statement.expr.dependencies).foldl
    (fun seen input => if seen.contains input then seen else seen ++ [input]) []

end Mapping

end Reshape
