import Reshape.Eval.Context
import Reshape.Eval.Memory
import Reshape.Eval.Operation
import Reshape.Expr.Basic

/-!
Queries: expressions with their meaning, which is what they give in a context and how they change
the memory. Each way to build an expression has its meaning here as a function of the queries inside
it. An error gets the label of the query that it comes from when another query reads that one.
-/

namespace Reshape

/-- Evaluation: a value or an error, and the memory after it, which an error does not undo. -/
abbrev Eval := ExceptT Error (StateM Memory)

namespace Eval

/-- The outcome of an evaluation that can be recovered from. -/
def attempt {α : Type} (action : Eval α) : Eval (Except Error α) :=
  ExceptT.mk (Except.ok <$> action.run)

/-- The evaluation that fails. -/
def fail {α : Type} (error : Error) : Eval α := throw error

/-- The value or the error. -/
def ofExcept {α : Type} : Except Error α → Eval α
  | .ok value => pure value
  | .error error => throw error

end Eval

/-- An expression with its meaning. -/
structure Query where
  expr : Expr
  /-- What the expression gives. -/
  run : Context → Eval Value

namespace Query

/-- The label of the expression. -/
def label (query : Query) : String := query.expr.label

/-- The query of a constant. -/
def constant (value : Value) : Query := ⟨.literal value, fun _ => pure value⟩

instance : Bindable Query where
  literal? query := query.expr.literal?
  label := label
  ofLiteral := constant

/-- What the expression gives, errors that do not say where they came from under its label. -/
def read (query : Query) (context : Context) : Eval Value :=
  ExceptT.adapt (fun error => error.label query.label) (query.run context)

/-- The error that a query gives a value of another kind than expected. -/
def expected {α : Type} (query : Query) (what : String) (value : Value) : Eval α :=
  throw ((Error.expected what value).label query.label)

/-- The truth value that a query has to give. -/
def truth (query : Query) (context : Context) : Eval Bool := do
  match ← query.read context with
  | .bool value => return value
  | other => query.expected "bool" other

/-- What a path gives. -/
def field (scope : Scope) (path : List String) (context : Context) : Eval Value :=
  match scope with
  | .current => Eval.ofExcept (context.get path)
  | .root =>
    match context.root with
    | some root => return root.getOrNull path
    | none => throw (.general .noRoot)
  | .named name =>
    match context.named? name with
    | some value => return value.getOrNull path
    | none => throw (.general (.unknownName name))

/-- What a path into a variable gives. -/
def variableAt (name : String) (path : List String) (context : Context) : Eval Value :=
  match context.locals.get? name with
  | some value => return value.getOrNull path
  | none => throw (.general (.unboundVariable name))

/-- The metadata under a key, or all of it. -/
def metadata (key : Option String) (context : Context) : Value :=
  match key with
  | some key => (context.metadata.get? key).getD .null
  | none => .object context.metadata

/-- The values of an array, without the markers. -/
def items (context : Context) : List Query → Eval (List Value)
  | [] => return []
  | item :: rest => do
    let value ← item.read context
    let values ← items context rest
    return if value.isMarker then values else value :: values

/-- The name that a key gives. -/
def key (query : Query) (context : Context) : Eval String := do
  match ← query.read context with
  | .string name => return name
  | other => throw ((Error.expected "string" other).label s!"object key from {query.label}")

/-- The fields of an object, without those that markers stand for; a later one wins. -/
def fields (context : Context) (done : Fields Value) : List (Query × Query) → Eval (Fields Value)
  | [] => return done
  | (key, value) :: rest => do
    let name ← key.key context
    let value ← value.read context
    fields context (if value.isMarker then done else done.insert name value) rest

/-- The error that an operator does not take two operands together. -/
def mismatch {α : Type} (operator : Operator) (left right : Query) (a b : Value) : Eval α :=
  throw (.mismatch ⟨operator.verb, a.typeName, b.typeName, left.label, right.label⟩)

/-- The result of an operator; the second operand of `and` and `or` is read only if it matters. -/
def binary (operator : Operator) (left right : Query) (context : Context) : Eval Value :=
  match operator with
  | .and => do
    if ← left.truth context then return .bool (← right.truth context) else return .bool false
  | .or => do
    if ← left.truth context then return .bool true else return .bool (← right.truth context)
  | operator => do
    let a ← left.read context
    let b ← right.read context
    match operator.result? a b with
    | .ok (some result) => return result
    | .ok none => mismatch operator left right a b
    | .error fault => throw (.general fault)

/-- The first value unless it fails or is no value, and else the second one. -/
def coalesce (left right : Query) (context : Context) : Eval Value := do
  -- A failure is dropped here, but what was kept on the way to it stays.
  match ← Eval.attempt (left.run context) with
  | .ok .null | .ok .nothing | .error _ => right.read context
  | .ok value => return value

/-- The number with its sign turned. -/
def negate (inner : Query) (context : Context) : Eval Value := do
  let value ← inner.read context
  match value.negate with
  | some result => return result
  | none => inner.expected "number" value

/-- What the first branch whose condition holds gives, or what stands behind all branches. -/
def branches (otherwise : Option Query) (context : Context) : List (Query × Query) → Eval Value
  | [] =>
    match otherwise with
    | some body => body.read context
    | none => return .nothing
  | (condition, body) :: rest => do
    if ← condition.truth context then body.read context else branches otherwise context rest

/-- Whether a case applies. -/
def applies (context : Context) : Case Query → Eval Bool
  | .wildcard => return true
  | .equals constant => return context.value.any fun value => value == constant
  | .query test => do
    match ← test.read context with
    | .bool result => return result
    | other => return context.value.any fun value => value == other

/-- What the first case that applies gives. -/
def cases (context : Context) : List (Case Query × Query) → Eval Value
  | [] => return .nothing
  | (case, body) :: rest => do
    if ← applies context case then body.read context else cases context rest

/-- What the body of a lambda gives for the current value. -/
def lambda (name : String) (body : Query) (context : Context) : Eval Value :=
  match context.value with
  | some value => body.read (context.bind name value)
  | none => throw (.noContext name)

end Query

end Reshape
