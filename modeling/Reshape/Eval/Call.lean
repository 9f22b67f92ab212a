import Reshape.Builtin.Prepared
import Reshape.Eval.Query

/-! Calls: what functions and methods give in a context. -/

namespace Reshape

namespace Query

/-- The integer that a parameter of a counter gives. -/
def integer (query : Query) (name : String) (context : Context) : Eval Int := do
  let value ← query.read context
  match value.toInt64? with
  | some result => return result.toInt
  | none => throw (.arguments (.unexpected name ⟨"integer", value⟩))

end Query

namespace Eval

/-- The message that is processed. -/
def message (context : Context) : Eval Batch :=
  match context.batch with
  | some batch => pure batch
  | none => fail (.general .noMessage)

/-- Keeps something for the call at a site. -/
def keep (site : Site) (cell : Cell) : Eval Unit :=
  modify fun memory => memory.keep site cell

/-- The counter of a call, whose bounds are read at its first use. -/
def tally (site : Site) (least greatest : Query) (context : Context) : Eval Tally := do
  match (← get).cell? site with
  | some (.tally tally) => return tally
  | _ =>
    let least ← least.integer "min" context
    let greatest ← greatest.integer "max" context
    let tally ← ofExcept ((Tally.between least greatest).mapError Error.arguments)
    keep site (.tally tally)
    return tally

/-- The next value of a counter. -/
def count (site : Site) (tally : Tally) : Eval Value := do
  let (value, after) := tally.next
  keep site (.tally after)
  return .int (Int64.ofInt value)

/-- The value of a counter: the next one, unless an override gives another one, asks for the current
one, or lets the counter start over. -/
def counter (site : Site) (least greatest : Query) (override : Option Query) (context : Context) :
    Eval Value := do
  let tally ← tally site least greatest context
  match override with
  | none => count site tally
  | some override =>
    match ← override.read context with
    | .nothing => return .int (Int64.ofInt tally.current)
    | .delete => count site tally.restarted
    | .null => count site tally
    | value =>
      match value.toInt64? with
      | some current =>
        keep site (.tally { tally with current := current.toInt })
        return .int current
      | none => fail (.expected "integer" value)

/-- The generator of a call, seeded at its first use. -/
def generator (site : Site) (seed : Query) (context : Context) : Eval Generator := do
  match (← get).cell? site with
  | some (.generator state) => return state
  | kept =>
    let value ← match kept with
      | some (.seed value) => pure value
      | _ => do
        let value ← seed.read context
        -- The seed is kept before it is known to be an integer.
        keep site (.seed value)
        pure value
    match (value.toInt64?.map Int64.toUInt64).or value.toUInt64? with
    | some seed => return .seeded seed
    | none => fail (.expected "integer seed" value)

/-- A random integer between two bounds. -/
def random (site : Site) (seed : Query) (least greatest : Int64) (context : Context) :
    Eval Value := do
  let state ← generator site seed context
  let (value, after) := state.between least.toInt greatest.toInt
  keep site (.generator after)
  return .int (Int64.ofInt value)

/-- The trace of the message, if it has one. -/
def trace? (context : Context) : Option Trace := do
  (← context.batch).trace? context.index

/-- Draws from what the mappings of an environment share. -/
def draw {α : Type} (step : Shared → α × Shared) : Eval α := do
  let memory ← get
  let (result, shared) := step memory.shared
  set { memory with shared }
  return result

end Eval

/-- What a function gives. -/
def FunctionCall.run (site : Site) (call : FunctionCall Query) (context : Context) : Eval Value :=
  match call with
  | .constant value => pure value
  | .deleted => pure .delete
  | .nothing => pure .nothing
  | .throw message => Eval.fail (.general (.stated message))
  | .variable name => pure ((context.locals.get? name).getD .null)
  | .content => do
    match (← Eval.message context).raw? context.index with
    | some raw => return .bytes raw
    | none => Eval.fail (.general .noMessage)
  | .json path => do
    let document ← Eval.ofExcept ((← Eval.message context).value context.index)
    return document.getOrNull path
  | .incoming (some key) =>
    pure ((context.batch.bind fun batch => batch.metadata? context.index key).getD .null)
  | .incoming none =>
    pure (((context.batch.bind fun batch => batch.allMetadata? context.index).map .object).getD
      .null)
  | .working key => pure (Query.metadata key context)
  | .batchIndex => pure (.uint context.index.toUInt64)
  | .batchSize => pure (.uint ((context.batch.map List.length).getD 1).toUInt64)
  | .traceId => pure (((Eval.trace? context).map fun trace => .string trace.id).getD .null)
  | .traceHeaders => pure (((Eval.trace? context).map Trace.toValue).getD .null)
  | .environment name =>
    pure (((context.surroundings.processVariables.lookup name).map .string).getD .null)
  | .now => pure (.string context.surroundings.now.text)
  | .unixTime => pure (.int (Int64.ofInt context.surroundings.now.seconds))
  | .identifier => do return .string (← Eval.draw Shared.identifier)
  | .counter least greatest override => Eval.counter site least greatest override context
  | .random seed least greatest => Eval.random site seed least greatest context
  | .count name => do return .int (← Eval.draw fun shared => shared.count name)
  | .failing failure => Eval.fail (.component failure)

namespace MethodCall

/-- What a query gives for an element. -/
def element (query : Query) (context : Context) (value : Value) : Eval Value :=
  query.read (context.narrow value)

/-- Whether a test accepts an element. -/
def accepts (test : Query) (context : Context) : Value → Eval Bool :=
  Collection.predicate test.label (element test context)

/-- An item with the key that a query gives for it. -/
def keyed (query : Query) (context : Context) (item : Value) : Eval (Value × Value) := do
  return (← element query context item, item)

/-- What a method gives for the outcome of its target. -/
def run (call : MethodCall Query) (target : Except Error Value) (context : Context) :
    Eval Value := do
  match call, target with
  | .fallback isForNull query, .ok value =>
    if isForNull && (value.isNull || value.isMarker) then query.read context else return value
  | .fallback _ query, .error _ => query.read context
  | _, .error error => throw error
  | .plain operation, .ok value => Eval.ofExcept (operation value)
  | .mapEach query, .ok value => Collection.mapEach (element query context) value
  | .filter test, .ok value => Collection.filter (accepts test context) value
  | .any test, .ok value => Collection.any (accepts test context) value
  | .all test, .ok value => Collection.all (accepts test context) value
  | .fold initial query, .ok value => Collection.fold (element query context) initial value
  | .sort before, .ok value =>
    let items ← Eval.ofExcept (Collection.items value)
    let sorted ← Collection.sortItems
      (fun a b => accepts before context (Collection.compared a b)) items
    return .array sorted
  | .sortBy key, .ok value =>
    let items ← Eval.ofExcept (Collection.items value)
    Eval.ofExcept (Collection.sortKeyed (← items.mapM (keyed key context)))

end MethodCall

namespace Query

/-- What a function gives, its arguments having the values that they have in the context. -/
def function (site : Site) (function : Function) (slots : List (Slot Query)) (context : Context) :
    Eval Value := do
  let bound ← (function.signature.attach slots).resolve fun query => query.read context
  (← Eval.ofExcept (function.prepare bound)).run site context

/-- What a method gives. The target is evaluated before the arguments; an error that does not say
where it came from comes from the target. -/
def method (target : Query) (method : Method) (slots : List (Slot Query)) (context : Context) :
    Eval Value :=
  ExceptT.adapt (fun error => error.label target.label) do
    let outcome ← Eval.attempt (target.read context)
    let bound ← (method.signature.attach slots).resolve fun query => query.read context
    (← Eval.ofExcept (method.prepare bound)).run outcome context

end Query

end Reshape
