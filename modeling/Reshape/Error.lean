import Reshape.Value.Json

/-!
Errors: what can go wrong when a mapping is compiled or run, each as its cause, and the text that
reports it. An error gets the label of the expression it came from once; an error that already says
where it came from is not labelled again.
-/

namespace Reshape

/-- A failure that a fault of its own kind reports. -/
inductive Fault where
  /-- A message that the mapping or the application gives. -/
  | stated (message : String)
  | divisionByZero
  | remainderByZero
  | noRoot
  | unknownName (name : String)
  | unboundVariable (name : String)
  | noMessage
  /-- The content of a message is no JSON text. -/
  | malformedMessage
  | messageOutOfBounds (index : Nat)
  | messageOutOfBatch (index size : Nat)
  /-- A number has no exact form in a kind of integers. -/
  | inexact (value : Value) (kind : String)
  | nullValue
  | emptyValue (typeName : String)
  | incomparable (left right : String)
  | indexOutOfBounds (index : Int) (length : Nat)
  /-- The bounds of a slice cross. -/
  | crossedBounds (start stop : Nat)
  | zeroStep
  | endlessRange (start stop step : Int)
  | longRange (start stop length limit : Int)
  | loneVerb
  | missingArgument (consumed : Nat)
  | surplusArguments (consumed given : Nat)
  | unknownVerb (verb : Char)
  /-- A text is not in an encoding scheme. -/
  | undecodable
  /-- A text is no JSON text. -/
  | malformedJson
  | invalidName (kind name : String)
  | takenName (kind name : String)
  | malformedConfig
  | unreadable (path reason : String)
  | noDirectory (path : String)
  | malformedSuite (path : String)
  /-- A part of a case has keys that JSON has no names for. -/
  | unnamedKeys (part : String)
  | emptyCase
  deriving Repr

/-- The text that reports a fault. -/
def Fault.message : Fault → String
  | .stated message => message
  | .divisionByZero => "attempted to divide by zero"
  | .remainderByZero => "attempted to modulo by zero"
  | .noRoot => "no root in this context"
  | .unknownName name => s!"named context `{name}` is not defined"
  | .unboundVariable name => s!"variable `{name}` is undefined"
  | .noMessage => "no message is available in this context"
  | .malformedMessage => "failed to parse message as JSON: malformed text"
  | .messageOutOfBounds index => s!"message index {index} is out of bounds"
  | .messageOutOfBatch index size =>
    s!"message index {index} is out of bounds for a batch of {size}"
  | .inexact value kind => s!"value {value.preview} cannot be represented as {kind} without loss"
  | .nullValue => "value is null"
  | .emptyValue typeName => s!"{typeName} must not be empty"
  | .incomparable left right => s!"cannot compare {left} with {right}"
  | .indexOutOfBounds index length =>
    s!"index {index} is out of bounds for an array of length {length}"
  | .crossedBounds start stop =>
    s!"lower slice bound {start} must be lower than or equal to upper bound ({stop})"
  | .zeroStep => "step must not be zero"
  | .endlessRange start stop step =>
    s!"range from {start} to {stop} never terminates with step {step}"
  | .longRange start stop length limit =>
    s!"range from {start} to {stop} would produce {length} elements, the limit is {limit}"
  | .loneVerb => "format string ends with a lone `%`"
  | .missingArgument consumed => s!"format string needs more than {consumed} arguments"
  | .surplusArguments consumed given =>
    s!"format string uses {consumed} arguments but {given} were given"
  | .unknownVerb verb => s!"unsupported format verb `%{verb}`"
  | .undecodable => "failed to decode: malformed text"
  | .malformedJson => "failed to parse JSON: malformed text"
  | .invalidName kind name => s!"{kind} name `{name}` is not snake case"
  | .takenName kind name => s!"conflicting {kind} name: {name}"
  | .malformedConfig => "invalid environment config: malformed text"
  | .unreadable path reason => s!"failed to read {path}: {reason}"
  | .noDirectory path => s!"test path {path} is not a directory"
  | .malformedSuite path => s!"failed to parse suite {path}: malformed text"
  | .unnamedKeys part => s!"{part} is not representable as JSON: key must be a string"
  | .emptyCase => "case needs one of `output`, `error` or `deleted`"

/-- A value where another kind of value was expected. -/
structure Unexpected where
  /-- What was expected. -/
  expected : String
  /-- What came instead. -/
  actual : Value
  deriving Repr

/-- The text that reports an unexpected value. -/
def Unexpected.message (unexpected : Unexpected) : String :=
  let shown := match unexpected.actual with
    | .null | .delete | .nothing => unexpected.actual.typeName
    | value => s!"{value.typeName} ({value.preview})"
  s!"expected {unexpected.expected} value, got {shown}"

/-- What is wrong with the arguments of a call. -/
inductive ArgumentFault where
  /-- A message that the application gives. -/
  | stated (message : String)
  | positionalAfterNamed
  | tooMany (expected given : Nat)
  | unknown (name : String)
  | repeated (name : String)
  /-- A named argument where arguments have positions only. -/
  | named (name : String)
  | missing (name : String)
  | notLiteral (name label : String)
  | unexpected (name : String) (unexpected : Unexpected)
  | notProvided (name : String)
  | unknownAlgorithm (name : String)
  | unknownScheme (name : String)
  | malformedPattern
  | negativeMinimum (least : Int)
  | reservedMaximum (limit : Int)
  | emptyInterval (least greatest : Int)
  deriving Repr

/-- The text that reports a fault of the arguments. -/
def ArgumentFault.message : ArgumentFault → String
  | .stated message => message
  | .positionalAfterNamed => "positional arguments cannot follow named arguments"
  | .tooMany expected given => s!"wrong number of arguments, expected {expected}, got {given}"
  | .unknown name => s!"unknown parameter `{name}`"
  | .repeated name => s!"duplicate argument for parameter `{name}`"
  | .named name => s!"named argument `{name}` is not accepted by a variadic parameter list"
  | .missing name => s!"missing required parameter `{name}`"
  | .notLiteral name label => s!"parameter `{name}` must be a literal value, got {label}"
  | .unexpected name value => s!"parameter `{name}`: {value.message}"
  | .notProvided name => s!"parameter `{name}` was not provided"
  | .unknownAlgorithm name =>
    s!"unrecognised hash algorithm `{name}`, expected one of sha224, sha256, sha384, sha512"
  | .unknownScheme name =>
    s!"unrecognised encoding scheme `{name}`, expected one of base64, base64url, base64rawurl, hex"
  | .malformedPattern => "invalid regular expression: malformed pattern"
  | .negativeMinimum least => s!"min must be greater than or equal to zero, got {least}"
  | .reservedMaximum limit => s!"max must be less than {limit}"
  | .emptyInterval least greatest =>
    s!"max must be greater than min, got min {least} and max {greatest}"

/-- Two operands that an operation does not take together, and where they came from. -/
structure Mismatch where
  /-- The verb of the operation. -/
  operation : String
  leftType : String
  rightType : String
  leftLabel : String
  rightLabel : String
  deriving DecidableEq, Repr

/-- The text that reports mismatched operands. -/
def Mismatch.message (mismatch : Mismatch) : String :=
  s!"cannot {mismatch.operation} types {mismatch.leftType} (from {mismatch.leftLabel})" ++
    s!" and {mismatch.rightType} (from {mismatch.rightLabel})"

/-- The failure of a component of the application. -/
structure ComponentFailure where
  typeName : String
  label : String
  path : List String
  cause : String
  deriving DecidableEq, Repr

/-- The text that reports the failure of a component. -/
def ComponentFailure.message (failure : ComponentFailure) : String :=
  let name :=
    if failure.label.isEmpty then s!"`{failure.typeName}`"
    else s!"`{failure.typeName}` ({failure.label})"
  let path := ".".intercalate failure.path
  let place := if failure.path.isEmpty then "" else s!" at path {path}"
  s!"component {name}{place} failed: {failure.cause}"

/-- The octets of a source from one offset up to but not including another. -/
structure Span where
  start : Nat
  stop : Nat
  deriving DecidableEq, Repr

/-- The octets from one offset up to another, none if the second is not beyond the first. -/
def Span.between (start stop : Nat) : Span := ⟨start, max start stop⟩

/-- A fault in the source of a mapping. -/
structure Diagnostic where
  message : String
  /-- What is said at the span. -/
  label : String
  help : Option String
  span : Span
  deriving DecidableEq, Repr

/-- An error of compiling or running a mapping. -/
inductive Error where
  /-- A field is read where there is no value. -/
  | noContext (field : String)
  | mismatch (mismatch : Mismatch)
  | component (failure : ComponentFailure)
  /-- An error with the label of the expression it came from. -/
  | labelled (label : String) (inner : Error)
  /-- The error of a statement. -/
  | assignment (line : Nat) (inner : Error)
  | unexpected (unexpected : Unexpected)
  | arguments (fault : ArgumentFault)
  /-- A name that is not registered. -/
  | unknown (kind name : String)
  | source (diagnostic : Diagnostic)
  | general (fault : Fault)
  /-- The file system refuses. -/
  | files (reason : String)
  deriving Repr

namespace Error

/-- The text that reports an error. -/
def message : Error → String
  | .noContext field =>
    if field.isEmpty then "context was undefined"
    else s!"context was undefined, unable to reference `{field}`"
  | .mismatch operands => operands.message
  | .component failure => failure.message
  | .labelled label inner => s!"{label}: {inner.message}"
  | .assignment line inner => s!"failed assignment (line {line}): {inner.message}"
  | .unexpected value => value.message
  | .arguments fault => fault.message
  | .unknown kind name => s!"unrecognised {kind} `{name}`"
  | .source diagnostic => s!"failed to parse mapping: {diagnostic.message}"
  | .general fault => fault.message
  | .files reason => reason

/-- The error that reports a value where another kind was expected. -/
def expected (what : String) (value : Value) : Error :=
  .unexpected ⟨what, value⟩

/-- Whether the error says where it came from. -/
def isPlaced : Error → Bool
  | .labelled .. | .mismatch _ | .component _ | .assignment .. | .source _ => true
  | _ => false

/-- The error with a label in front, unless it says already where it came from. -/
def label (label : String) (error : Error) : Error :=
  if error.isPlaced then error else .labelled label error

/-- The error under all labels and lines. -/
def root : Error → Error
  | .labelled _ inner | .assignment _ inner => inner.root
  | error => error

/-- Whether a field was read where there is no value. -/
def isNoContext (error : Error) : Bool :=
  match error.root with
  | .noContext _ => true
  | _ => false

/-- Whether the error is a label in front of another one. -/
def isLabelled : Error → Bool
  | .labelled .. => true
  | _ => false

/-- The operands that did not match, if that is what went wrong. -/
def mismatch? (error : Error) : Option Mismatch :=
  match error.root with
  | .mismatch operands => some operands
  | _ => none

/-- The component that failed, if that is what went wrong. -/
def component? (error : Error) : Option ComponentFailure :=
  match error.root with
  | .component failure => some failure
  | _ => none

/-- The error with a text that tells how to go on; only faults of a source have one. -/
def withHelp (help : String) : Error → Error
  | .source diagnostic => .source { diagnostic with help := some help }
  | error => error

/-- The error code that diagnostics carry. -/
def code : Error → String
  | .noContext _ => "mapling::runtime::no_context"
  | .mismatch _ => "mapling::runtime::type_mismatch"
  | .component _ => "mapling::runtime::component"
  | .labelled .. => "mapling::runtime::annotated"
  | .assignment .. => "mapling::mapping::assignment"
  | .unexpected _ => "mapling::runtime::invalid_value"
  | .arguments _ => "mapling::params::invalid"
  | .unknown .. => "mapling::registry::unknown"
  | .source _ => "mapling::parse::error"
  | .general _ => "mapling::runtime::general"
  | .files _ => "mapling::io"

end Error

end Reshape
