import Reshape.Error

/-!
Parameters: what a function or method declares of its arguments, and the conversion of a value to
the kind that a parameter has.
-/

namespace Reshape

/-- The kind of argument that a parameter takes. -/
inductive Kind where
  | any
  | string
  | int
  | float
  | bool
  | array
  | object
  /-- The expression of the argument itself. -/
  | query
  deriving DecidableEq, Repr

namespace Kind

/-- The name of a kind. -/
def name : Kind → String
  | .any => "any"
  | .string => "string"
  | .int => "int"
  | .float => "float"
  | .bool => "bool"
  | .array => "array"
  | .object => "object"
  | .query => "query"

/-- All kinds. -/
def all : List Kind := [.any, .string, .int, .float, .bool, .array, .object, .query]

/-- The kind of a name. -/
def named? (name : String) : Option Kind :=
  all.find? fun kind => kind.name = name

/-- What errors call a value of the kind. -/
def expectation : Kind → String
  | .any | .query => "any"
  | .string => "string"
  | .int => "integer"
  | .float => "number"
  | .bool => "bool"
  | .array => "array"
  | .object => "object"

/-- The value in the form that the kind asks for, if nothing is lost; octets become the text that
they hold. -/
def convert? : Kind → Value → Option Value
  | .any, value | .query, value => some value
  | .string, .string text => some (.string text)
  | .string, .bytes octets => some (.string (Utf8.toText octets))
  | .int, value => value.toInt64?.map .int
  | .float, value => value.toFloat?.map .float
  | .bool, .bool value => some (.bool value)
  | .array, .array items => some (.array items)
  | .object, .object fields => some (.object fields)
  | _, _ => none

/-- The value in the form that the kind asks for, or the value that was not expected. -/
def convert (kind : Kind) (value : Value) : Except Unexpected Value :=
  match kind.convert? value with
  | some converted => .ok converted
  | none => .error ⟨kind.expectation, value⟩

end Kind

/-- A declared parameter. -/
structure Parameter where
  name : String
  description : String
  kind : Kind
  /-- Whether a call may leave the argument out, or give null for it. -/
  isOptional : Bool
  /-- What stands for a missing argument. -/
  standard : Option Value
  /-- Whether the argument must be a literal. -/
  isStatic : Bool
  /-- Whether the argument is a query that runs on the target of the method. -/
  isScoped : Bool
  deriving Repr

namespace Parameter

/-- A required parameter. -/
def required (name : String) (kind : Kind) (description : String) : Parameter :=
  ⟨name, description, kind, false, none, false, false⟩

/-- The parameter, which a call may leave out. -/
def optional (parameter : Parameter) : Parameter :=
  { parameter with isOptional := true }

/-- The parameter, for which a value stands if a call leaves it out. -/
def defaulting (parameter : Parameter) (value : Value) : Parameter :=
  { parameter with isOptional := true, standard := some value }

/-- The parameter, which takes literals only. -/
def static (parameter : Parameter) : Parameter :=
  { parameter with isStatic := true }

/-- The parameter, whose query runs on the target of the method. -/
def onTarget (parameter : Parameter) : Parameter :=
  { parameter with isScoped := true }

end Parameter

/-- The parameters of a function or method. -/
structure Signature where
  /-- The declared parameters, in order. -/
  parameters : List Parameter
  /-- Whether any number of arguments is taken instead, by position. -/
  isVariadic : Bool
  deriving Repr

/-- A signature of declared parameters. -/
def Signature.of (parameters : List Parameter) : Signature := ⟨parameters, false⟩

/-- The signature that takes any number of arguments. -/
def Signature.variadic : Signature := ⟨[], true⟩

end Reshape
