import Reshape.Builtin.Prepared
import Reshape.Environment
import Reshape.Expr.Basic
import Reshape.Grammar.Term
import Reshape.Json.Reader

/-!
Compilation: terms to expressions. Names of functions and methods are looked up in an environment
and arguments are bound to parameters; constant parts become literals. Of several faults the first
one in the order of the source is reported, except that both operands of an operator are compiled
before the fault of either is.
-/

namespace Reshape

/-- Compilation: an expression or an error, and the warnings given on the way. -/
abbrev Compile := ExceptT Error (StateM (List String))

namespace Compile

/-- What terms are compiled in. -/
structure Setting where
  environment : Environment
  /-- How many expressions stand around the term. -/
  depth : Nat
  /-- The names of the lambdas around the term. -/
  lambdas : List String

/-- Compilation that stops at a fault of the source. -/
def fail {α : Type} (span : Span) (message label : String) (help : Option String) : Compile α :=
  throw (.source ⟨message, label, help, span⟩)

/-- Compilation that gives a warning. -/
def warn (text : String) : Compile Unit :=
  modify fun warnings => warnings ++ [text]

/-- The outcome of compilation, which can be asked for before it is used. -/
def attempt {α : Type} (action : Compile α) : Compile (Except Error α) :=
  ExceptT.mk (Except.ok <$> action.run)

/-- The result or the error. -/
def ofExcept {α : Type} : Except Error α → Compile α
  | .ok result => pure result
  | .error error => throw error

/-- The text that a quoted string stands for. -/
def unquote (span : Span) (text : String) : Compile String :=
  match Json.parse text.toList with
  | some (.string inner) => return inner
  | _ => fail span "invalid string literal: malformed text" "this string" none

/-- The name that a segment stands for. -/
def segment : Segment → Compile String
  | .plain name => return name
  | .quoted span text => unquote span text

/-- The number that a numeral stands for: an integer where it is one that fits. -/
def numeral? (text : List Char) : Option Value :=
  let float := (Numeral.readBinary64? text).map Value.float
  if text.any fun c => c = '.' || c = 'e' || c = 'E' then float
  else ((Numeral.readInt64? text).map .int).or
    (((Numeral.readUInt64? text).map .uint).or float)

/-- The number that a numeral stands for. -/
def number (span : Span) (text : String) : Compile Value :=
  match numeral? text.toList with
  | some value => return value
  | none => fail span s!"invalid number `{text}`" "this number" none

/-- The error of a call as a fault of the source at the call. -/
def callError (kind : String) (span : Span) (error : Error) : Error :=
  match error with
  | .source diagnostic => .source diagnostic
  | .unknown .. =>
    .source ⟨error.message, s!"unknown {kind}",
      some s!"run `mapling {kind}s` to list what is available", span⟩
  | error => .source ⟨error.message, s!"in this {kind} call", none, span⟩

/-- Looks up what a call names, and warns if it is deprecated. -/
def lookUp {κ : Type} (kind name : String) (entries : Fields (Entry κ)) : Compile κ := do
  let entry ← ofExcept (Environment.entry kind name entries)
  if entry.notes.status = .deprecated then warn s!"{kind} `{name}` is deprecated"
  return entry.called

/-- The expression of a call of a function. A call whose value is known is a literal. -/
def call (environment : Environment) (name : String) (arguments : List (Argument Expr)) :
    Compile Expr := do
  let function ← lookUp "function" name environment.functions
  let located {α : Type} (outcome : Except Error α) : Compile α :=
    ofExcept (outcome.mapError (Error.label s!"function `{name}`"))
  let slots ← located (function.signature.bindSlots arguments)
  let bound := function.signature.attach slots
  -- Only arguments that are all known can be checked before there is a message.
  if bound.isDynamic then return .call function slots
  else match ← located (function.prepare bound) with
    | .constant value => return .literal value
    | _ => return .call function slots

/-- The expression of a call of a method. -/
def method (environment : Environment) (target : Expr) (name : String)
    (arguments : List (Argument Expr)) : Compile Expr := do
  let method ← lookUp "method" name environment.methods
  let located {α : Type} (outcome : Except Error α) : Compile α :=
    ofExcept (outcome.mapError (Error.label s!"method `{name}`"))
  let slots ← located (method.signature.bindSlots arguments)
  let bound := method.signature.attach slots
  if !bound.isDynamic then
    -- The outcome is not kept: it is asked for only to report faulty arguments now.
    let _ ← located (method.prepare bound)
  return .method target method slots

/-- The expression of a call, its error as a fault of the source. -/
def placed (kind : String) (span : Span) (action : Compile Expr) : Compile Expr :=
  ExceptT.adapt (callError kind span) action

end Compile

namespace Expr

/-- The value that a sign makes of a constant, if it is one. -/
def signed? (sign : PrefixSign) (operand : Expr) : Option Value := do
  let value ← operand.literal?
  match sign with
  | .negate => value.negate
  | .not => value.toBool?.map fun truth => .bool !truth

/-- An expression with a sign before it. -/
def signed (sign : PrefixSign) (operand : Expr) : Expr :=
  match signed? sign operand with
  | some value => .literal value
  | none =>
    match sign with
    | .negate => .negate operand
    | .not => .not operand

/-- Two expressions with a sign between them. -/
def joined (sign : Sign) (left right : Expr) : Expr :=
  match sign with
  | .coalesce => .coalesce left right
  | .operator operator => .binary operator left right

/-- The array of expressions, a literal if they all are. -/
def ofItems (items : List Expr) : Expr :=
  match items.mapM literal? with
  | some values => .literal (.array (values.filter fun value => !value.isMarker))
  | none => .array items

/-- The constant entry that a key and a value make. -/
def entry? (entry : Expr × Expr) : Option (String × Value) := do
  match ← entry.1.literal? with
  | .string name => return (name, ← entry.2.literal?)
  | _ => none

/-- The object of keys and values, a literal if they all are. -/
def ofEntries (entries : List (Expr × Expr)) : Expr :=
  match entries.mapM entry? with
  | some fields => .literal (.object (Fields.ofList fields))
  | none => .object entries

/-- The case of an expression: a constant is compared, unless it is a truth value. -/
def toCase (expr : Expr) : Case Expr :=
  match expr with
  | .literal (.bool _) => .query expr
  | .literal value => .equals value
  | _ => .query expr

/-- The path that a single name stands for. -/
def ofName (lambdas : List String) (name : String) : Expr :=
  if lambdas.contains name then .field (.named name) [] else .field .current [name]

end Expr

namespace Term

open Compile (Setting)

mutual

/-- The expression of a term. -/
def compile (setting : Setting) : Term → Compile Expr
  | .nested span inner =>
    let limit := setting.environment.depthLimit
    if setting.depth + 1 ≤ limit then
      compile { setting with depth := setting.depth + 1 } inner
    else
      Compile.fail span s!"expression nesting exceeds the maximum depth of {limit}"
        "too deeply nested" none
  | .literal value => return .literal value
  | .number span text => return .literal (← Compile.number span text)
  | .quoted span text => return .literal (.string (← Compile.unquote span text))
  | .array items => return Expr.ofItems (← compileAll setting items)
  | .object entries => return Expr.ofEntries (← compileEntries setting entries)
  | .branches tests otherwise => do
    let tests ← compilePairs setting tests
    return .branches tests (← compileOption setting otherwise)
  | .cases subject rules => do
    let subject ← compileOption setting subject
    return .cases subject (← compileCases setting rules)
  | .call span called given => do
    let arguments ← compileArguments setting given
    Compile.placed "function" span (Compile.call setting.environment called arguments)
  | .variable called => return .variable called []
  | .metadata none => return .metadata none
  | .metadata (some key) => return .metadata (some (← Compile.segment key))
  | .root => return .field .root []
  | .current => return .field .current []
  | .name called => return .ofName setting.lambdas called
  | .signed sign operand => return .signed sign (← compile setting operand)
  | .binary sign left right => do
    -- Warnings of the right operand are given even if the left one has a fault.
    let left ← Compile.attempt (compile setting left)
    let right ← Compile.attempt (compile setting right)
    return .joined sign (← Compile.ofExcept left) (← Compile.ofExcept right)
  | .field target part => do
    let target ← compile setting target
    return target.child (← Compile.segment part)
  | .method span target called given => do
    let target ← compile setting target
    let arguments ← compileArguments setting given
    Compile.placed "method" span (Compile.method setting.environment target called arguments)
  | .lambda called body =>
    return .lambda called (← compile { setting with lambdas := called :: setting.lambdas } body)

/-- The expression of an optional term. -/
def compileOption (setting : Setting) : Option Term → Compile (Option Expr)
  | none => return none
  | some term => return some (← compile setting term)

/-- The expressions of terms. -/
def compileAll (setting : Setting) : List Term → Compile (List Expr)
  | [] => return []
  | term :: rest => do
    let expr ← compile setting term
    return expr :: (← compileAll setting rest)

/-- The expressions of pairs of terms. -/
def compilePairs (setting : Setting) : List (Term × Term) → Compile (List (Expr × Expr))
  | [] => return []
  | (first, second) :: rest => do
    let first ← compile setting first
    let second ← compile setting second
    return (first, second) :: (← compilePairs setting rest)

/-- The expressions of the entries of an object; a constant key has to be a string. -/
def compileEntries (setting : Setting) :
    List (Span × Term × Term) → Compile (List (Expr × Expr))
  | [] => return []
  | (span, key, value) :: rest => do
    let key ← compile setting key
    match key.literal? with
    | none | some (.string _) =>
      let value ← compile setting value
      return (key, value) :: (← compileEntries setting rest)
    | some other =>
      Compile.fail span s!"object keys must be strings, got {other.typeName}" "this key" none

/-- The cases of terms and what applies in them. -/
def compileCases (setting : Setting) :
    List (Option Term × Term) → Compile (List (Case Expr × Expr))
  | [] => return []
  | (test, body) :: rest => do
    let test ← compileOption setting test
    let body ← compile setting body
    let case := match test with
      | none => .wildcard
      | some expr => expr.toCase
    return (case, body) :: (← compileCases setting rest)

/-- The arguments of a call. -/
def compileArguments (setting : Setting) :
    List (Option String × Term) → Compile (List (Argument Expr))
  | [] => return []
  | (called, term) :: rest => do
    let expr ← compile setting term
    return ⟨called, expr⟩ :: (← compileArguments setting rest)

end

end Term

/-- The expression of a source. -/
def Expr.compile (environment : Environment) (source : String) : Compile Expr :=
  match Term.read source with
  | .ok term => term.compile ⟨environment, 0, []⟩
  | .error diagnostic => throw (.source diagnostic)

end Reshape
