import Reshape.Builtin.Prepared
import Reshape.Expr.Basic

/-!
Dependencies: the inputs that an expression may read, found without evaluating it. The analysis
keeps what the current value and the names of lambdas stand for, so that a path in the query of a
method is told from the document on.
-/

namespace Reshape

/-- What an input is a part of. -/
inductive Origin where
  | value
  | root
  | metadata
  | variable
  deriving DecidableEq, Repr

/-- The name of an origin. -/
def Origin.name : Origin → String
  | .value => "value"
  | .root => "root"
  | .metadata => "metadata"
  | .variable => "variable"

/-- The origin of a name. -/
def Origin.named? (name : String) : Option Origin :=
  [.value, .root, .metadata, Origin.variable].find? fun origin => origin.name = name

/-- An input. -/
structure Dependency where
  origin : Origin
  path : List String
  deriving DecidableEq, Repr

namespace Dependency

/-- The input as an expression would write it. -/
def text (dependency : Dependency) : String :=
  let path := ".".intercalate dependency.path
  match dependency.origin with
  | .value => if path.isEmpty then "this" else "this." ++ path
  | .root => if path.isEmpty then "root" else "root." ++ path
  | .metadata => "@" ++ path
  | .variable => "$" ++ path

/-- The part of an input at a path. -/
def child (dependency : Dependency) (path : List String) : Dependency :=
  { dependency with path := dependency.path ++ path }

end Dependency

/-- What the current value and the names stand for at a place in an expression. -/
structure Viewpoint where
  /-- The inputs that the current value may be a part of; none for the document itself. -/
  current : List Dependency
  /-- The inputs of names, the last name first. -/
  names : List (String × List Dependency)
  deriving DecidableEq, Repr

namespace Viewpoint

/-- The viewpoint of a whole expression. -/
def document : Viewpoint := ⟨[], []⟩

/-- The viewpoint with another current value. -/
def moved (view : Viewpoint) (current : List Dependency) : Viewpoint := { view with current }

/-- The viewpoint with a name for inputs. -/
def bind (view : Viewpoint) (name : String) (inputs : List Dependency) : Viewpoint :=
  { view with names := (name, inputs) :: view.names }

/-- The inputs at a path from the current value. -/
def child (view : Viewpoint) (path : List String) : List Dependency :=
  match view.current with
  | [] => [⟨.value, path⟩]
  | inputs => inputs.map fun input => input.child path

/-- The inputs at a path from a name; a name for no inputs stands for the current value. -/
def named (view : Viewpoint) (name : String) (path : List String) : List Dependency :=
  match view.names.lookup name with
  | none | some [] => view.child path
  | some inputs => inputs.map fun input => input.child path

/-- The inputs at a path. -/
def field (view : Viewpoint) (scope : Scope) (path : List String) : List Dependency :=
  match scope with
  | .current => view.child path
  | .root => [⟨.root, path⟩]
  | .named name => view.named name path

end Viewpoint

/-- The inputs that a function reads by itself. -/
def FunctionCall.inputs {ε : Type} : FunctionCall ε → List Dependency
  | .json path => [⟨.value, path⟩]
  | .incoming key | .working key => [⟨.metadata, key.toList⟩]
  | .variable name => [⟨.variable, [name]⟩]
  | _ => []

/-- The inputs that a call of a function reads by itself; they are not known before the arguments
are. -/
def Function.inputs (function : Function) (slots : List (Slot Expr)) : List Dependency :=
  let bound := function.signature.attach slots
  if bound.isDynamic then []
  else match function.prepare bound with
    | .ok call => call.inputs
    | .error _ => []

namespace Expr

mutual

/-- The viewpoint of queries on the result of an expression, and the inputs of the expression. -/
def inspect (view : Viewpoint) : Expr → Viewpoint × List Dependency
  | .literal _ => (view, [])
  | .field scope path =>
    let inputs := view.field scope path
    (view.moved inputs, inputs)
  | .variable name path => (view, [⟨.variable, name :: path⟩])
  | .metadata key => (view, [⟨.metadata, key.toList⟩])
  | .get target segment =>
    let inputs := (inspect view target).2.map fun input => input.child [segment]
    (view.moved inputs, inputs)
  | .array items => (view, inspectAll view items)
  | .object entries => (view, inspectPairs view entries)
  | .binary _ left right | .coalesce left right =>
    (view, (inspect view left).2 ++ (inspect view right).2)
  | .not inner | .negate inner => (view, (inspect view inner).2)
  | .branches tests otherwise =>
    (view, inspectPairs view tests ++ (inspectOption view otherwise).2)
  | .cases subject rules =>
    let (inner, inputs) := inspectOption view subject
    (view, inputs ++ inspectCases inner rules)
  | .lambda name body => (view, (inspect (view.bind name view.current) body).2)
  | .call function slots =>
    (view, function.inputs slots ++ inspectSlots view view function.signature.parameters slots)
  | .method target called slots =>
    -- Queries on the target look at what the target gives, the other arguments do not.
    let (inner, inputs) := inspect view target
    (inner, inputs ++ inspectSlots view inner called.signature.parameters slots)

/-- The viewpoint and inputs of an optional expression. -/
def inspectOption (view : Viewpoint) : Option Expr → Viewpoint × List Dependency
  | none => (view, [])
  | some expr => inspect view expr

/-- The inputs of expressions. -/
def inspectAll (view : Viewpoint) : List Expr → List Dependency
  | [] => []
  | expr :: rest => (inspect view expr).2 ++ inspectAll view rest

/-- The inputs of pairs of expressions. -/
def inspectPairs (view : Viewpoint) : List (Expr × Expr) → List Dependency
  | [] => []
  | (first, second) :: rest =>
    (inspect view first).2 ++ (inspect view second).2 ++ inspectPairs view rest

/-- The inputs of a case. -/
def inspectCase (view : Viewpoint) : Case Expr → List Dependency
  | .wildcard | .equals _ => []
  | .query expr => (inspect view expr).2

/-- The inputs of cases and of what applies in them. -/
def inspectCases (view : Viewpoint) : List (Case Expr × Expr) → List Dependency
  | [] => []
  | (case, body) :: rest =>
    inspectCase view case ++ (inspect view body).2 ++ inspectCases view rest

/-- The inputs of a slot, whose query runs on the target of the method or not. -/
def inspectSlot (view target : Viewpoint) (isScoped : Bool) : Slot Expr → List Dependency
  | .absent | .value _ => []
  | .query expr => (inspect (if isScoped then target else view) expr).2
  | .dynamic expr => (inspect view expr).2

/-- The inputs of slots. -/
def inspectSlots (view target : Viewpoint) (parameters : List Parameter) :
    List (Slot Expr) → List Dependency
  | [] => []
  | slot :: rest =>
    inspectSlot view target (parameters.head?.any Parameter.isScoped) slot ++
      inspectSlots view target parameters.tail rest

end

/-- The inputs that an expression may read, in the order in which it names them. -/
def dependencies (expr : Expr) : List Dependency := (expr.inspect .document).2

end Expr

end Reshape
