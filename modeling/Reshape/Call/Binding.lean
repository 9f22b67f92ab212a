import Reshape.Call.Parameter

/-!
Binding: the arguments of a call are assigned to the parameters of the signature. A literal argument
is converted when it is bound; any other argument of a value parameter is kept and gives its value
at each call; an argument of a query parameter stays an expression. Binding is the same for every
type of expressions that tells its literals and labels.
-/

namespace Reshape

/-- A type of expressions as far as binding looks at them. -/
class Bindable (ε : Type) where
  /-- The constant that an expression is, if it is a literal. -/
  literal? : ε → Option Value
  /-- The label of an expression in errors. -/
  label : ε → String
  /-- The literal of a value. -/
  ofLiteral : Value → ε

/-- An argument as a call gives it. -/
structure Argument (ε : Type) where
  name : Option String
  expr : ε
  deriving Repr

/-- What a parameter is bound to. -/
inductive Slot (ε : Type) where
  | absent
  | value (value : Value)
  /-- The expression itself. -/
  | query (expr : ε)
  /-- The value that the expression has at a call. -/
  | dynamic (expr : ε)
  deriving Repr

/-- Parameters and what they are bound to. -/
structure Bound (ε : Type) where
  /-- The declared parameters. -/
  parameters : List Parameter
  /-- What each of them is bound to. -/
  slots : List (Slot ε)
  /-- What a variadic signature collects. -/
  extra : List (Slot ε)
  deriving Repr

variable {ε : Type}

namespace Slot

/-- Whether the slot has its value only at a call. -/
def isDynamic : Slot ε → Bool
  | .dynamic _ => true
  | _ => false

/-- The slot that a missing argument leaves, if the parameter allows for one. -/
def missing? [Bindable ε] (parameter : Parameter) : Option (Slot ε) :=
  match parameter.standard with
  | some constant =>
    some (if parameter.kind = .query then .query (Bindable.ofLiteral constant)
      else .value constant)
  | none => if parameter.isOptional then some .absent else none

/-- The slot that a null leaves for an optional parameter. -/
def ofNull (parameter : Parameter) : Slot ε :=
  match parameter.standard with
  | some constant => .value constant
  | none => .absent

/-- The slot that the value of an argument leaves. -/
def ofValue (parameter : Parameter) (given : Value) : Except Error (Slot ε) :=
  if given.isNull && parameter.isOptional then .ok (.ofNull parameter)
  else match parameter.kind.convert given with
    | .ok converted => .ok (.value converted)
    | .error unexpected => .error (.arguments (.unexpected parameter.name unexpected))

/-- The slot that an argument leaves. -/
def ofArgument [Bindable ε] (parameter : Parameter) (expr : ε) : Except Error (Slot ε) :=
  if parameter.kind = .query then .ok (.query expr)
  else match Bindable.literal? expr with
    | some constant => ofValue parameter constant
    | none =>
      if parameter.isStatic then
        .error (.arguments (.notLiteral parameter.name (Bindable.label expr)))
      else .ok (.dynamic expr)

/-- The slot of a parameter, given its argument if there is one. -/
def bind [Bindable ε] (parameter : Parameter) : Option ε → Except Error (Slot ε)
  | some expr => ofArgument parameter expr
  | none =>
    match missing? parameter with
    | some slot => .ok slot
    | none => .error (.arguments (.missing parameter.name))

end Slot

namespace Signature

/-- The arguments placed at the positions of the parameters: `next` is the position of the next
argument without a name, none after an argument with one. -/
def place (parameters : List Parameter) (given : Nat) :
    Option Nat → List (Option ε) → List (Argument ε) → Except ArgumentFault (List (Option ε))
  | _, placed, [] => .ok placed
  -- Positions mean nothing once an argument had a name.
  | none, _, ⟨none, _⟩ :: _ => .error .positionalAfterNamed
  | some next, placed, ⟨none, expr⟩ :: rest =>
    if next < parameters.length then
      place parameters given (some (next + 1)) (placed.set next (some expr)) rest
    else .error (.tooMany parameters.length given)
  | _, placed, ⟨some name, expr⟩ :: rest =>
    match parameters.findIdx? fun parameter => parameter.name == name with
    | none => .error (.unknown name)
    | some index =>
      match placed[index]? with
      | some none => place parameters given none (placed.set index (some expr)) rest
      | _ => .error (.repeated name)

/-- The slots of arguments that have positions only. -/
def collect [Bindable ε] : List (Argument ε) → Except ArgumentFault (List (Slot ε))
  | [] => .ok []
  | ⟨some name, _⟩ :: _ => .error (.named name)
  | ⟨none, expr⟩ :: rest => do
    let slots ← collect rest
    let slot := match Bindable.literal? expr with
      | some value => .value value
      | none => .dynamic expr
    return slot :: slots

/-- The slots of the parameters, in order. -/
def bindEach [Bindable ε] : List Parameter → List (Option ε) → Except Error (List (Slot ε))
  | parameter :: parameters, argument :: arguments => do
    let slot ← Slot.bind parameter argument
    return slot :: (← bindEach parameters arguments)
  | _, _ => .ok []

/-- The signature with slots for its parameters, or with the slots that it collects. -/
def attach (signature : Signature) (slots : List (Slot ε)) : Bound ε :=
  if signature.isVariadic then ⟨[], [], slots⟩ else ⟨signature.parameters, slots, []⟩

/-- Binds arguments to the parameters: the slots in their order. -/
def bindSlots [Bindable ε] (signature : Signature) (arguments : List (Argument ε)) :
    Except Error (List (Slot ε)) :=
  if signature.isVariadic then (collect arguments).mapError .arguments
  else do
    let placed ← (place signature.parameters arguments.length (some 0)
      (signature.parameters.map fun _ => none) arguments).mapError .arguments
    bindEach signature.parameters placed

/-- Binds arguments to the parameters. -/
def bind [Bindable ε] (signature : Signature) (arguments : List (Argument ε)) :
    Except Error (Bound ε) :=
  (signature.bindSlots arguments).map signature.attach

end Signature

namespace Bound

/-- Whether some argument has its value only at a call. -/
def isDynamic (bound : Bound ε) : Bool :=
  (bound.slots ++ bound.extra).any Slot.isDynamic

/-- The expressions among the arguments, each with whether it runs on the target of the method. -/
def queries (bound : Bound ε) : List (ε × Bool) :=
  let declared := (bound.parameters.zip bound.slots).filterMap fun (parameter, slot) =>
    match slot with
    | .query expr => some (expr, parameter.isScoped)
    | .dynamic expr => some (expr, false)
    | _ => none
  let collected := bound.extra.filterMap fun slot =>
    match slot with
    | .dynamic expr => some (expr, false)
    | _ => none
  declared ++ collected

/-- The slot of a parameter. -/
def slot? (bound : Bound ε) (name : String) : Option (Slot ε) :=
  ((bound.parameters.zip bound.slots).find? fun (parameter, _) => parameter.name == name).map
    Prod.snd

/-- The value that a parameter is bound to. -/
def get? (bound : Bound ε) (name : String) : Option Value :=
  match bound.slot? name with
  | some (.value value) => some value
  | _ => none

/-- The value of a parameter that has one. -/
def demand {α : Type} (name : String) : Option α → Except Error α
  | some value => .ok value
  | none => .error (.arguments (.notProvided name))

/-- A reading of the value that a parameter is bound to, if it is bound to one. -/
def read? {α : Type} (bound : Bound ε) (name what : String) (read : Value → Option α) :
    Except Error (Option α) :=
  match bound.get? name with
  | none => .ok none
  | some value =>
    match read value with
    | some result => .ok (some result)
    | none => .error (.expected what value)

/-- The value of a parameter. -/
def value (bound : Bound ε) (name : String) : Except Error Value :=
  demand name (bound.get? name)

/-- The text of an optional string parameter. -/
def string? (bound : Bound ε) (name : String) : Except Error (Option String) :=
  bound.read? name "string" fun
    | .string text => some text
    | .bytes octets => some (Utf8.toText octets)
    | _ => none

/-- The text of a string parameter. -/
def string (bound : Bound ε) (name : String) : Except Error String := do
  demand name (← bound.string? name)

/-- The integer of an optional integer parameter. -/
def int? (bound : Bound ε) (name : String) : Except Error (Option Int64) :=
  bound.read? name "integer" Value.toInt64?

/-- The integer of an integer parameter. -/
def int (bound : Bound ε) (name : String) : Except Error Int64 := do
  demand name (← bound.int? name)

/-- The number of a number parameter. -/
def float (bound : Bound ε) (name : String) : Except Error Binary64 := do
  demand name (← bound.read? name "number" Value.toFloat?)

/-- The truth value of an optional truth value parameter. -/
def bool? (bound : Bound ε) (name : String) : Except Error (Option Bool) :=
  bound.read? name "bool" Value.toBool?

/-- The truth value of a truth value parameter. -/
def bool (bound : Bound ε) (name : String) : Except Error Bool := do
  demand name (← bound.bool? name)

/-- The items of an array parameter. -/
def array (bound : Bound ε) (name : String) : Except Error (List Value) := do
  demand name (← bound.read? name "array" fun
    | .array items => some items
    | _ => none)

/-- The fields of an object parameter. -/
def object (bound : Bound ε) (name : String) : Except Error (Fields Value) := do
  demand name (← bound.read? name "object" fun
    | .object fields => some fields
    | _ => none)

/-- The expression of an optional query parameter; a value stands for its literal. -/
def query? [Bindable ε] (bound : Bound ε) (name : String) : Option ε :=
  match bound.slot? name with
  | some (.query expr) => some expr
  | some (.value value) => some (Bindable.ofLiteral value)
  | _ => none

/-- The expression of a query parameter. -/
def query [Bindable ε] (bound : Bound ε) (name : String) : Except Error ε :=
  demand name (bound.query? name)

/-- The values that a variadic signature collected. -/
def values (bound : Bound ε) : List Value :=
  bound.extra.filterMap fun
    | .value value => some value
    | _ => none

end Bound

/-- The slot at a call: the value of an expression takes the place of the expression. -/
def Slot.resolve {m : Type → Type} [Monad m] [MonadExceptOf Error m] (run : ε → m Value)
    (parameter : Option Parameter) : Slot ε → m (Slot ε)
  | .dynamic expr => do
    let value ← run expr
    match parameter with
    | some parameter =>
      match (Slot.ofValue parameter value : Except Error (Slot ε)) with
      | .ok slot => return slot
      | .error error => throw error
    | none => return .value value
  | slot => return slot

/-- The slots at a call, from left to right. -/
def Bound.resolve {m : Type → Type} [Monad m] [MonadExceptOf Error m] (run : ε → m Value)
    (bound : Bound ε) : m (Bound ε) := do
  let slots ← (bound.parameters.zip bound.slots).mapM fun (parameter, slot) =>
    slot.resolve run (some parameter)
  let extra ← bound.extra.mapM (Slot.resolve run none)
  return { bound with slots, extra }

end Reshape
