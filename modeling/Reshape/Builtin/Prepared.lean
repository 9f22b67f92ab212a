import Reshape.Builtin.Collection
import Reshape.Builtin.Function
import Reshape.Builtin.Method
import Reshape.Builtin.Numeric
import Reshape.Builtin.Template
import Reshape.Call.Binding
import Reshape.Codec.Scheme
import Reshape.Codec.Sha2
import Reshape.Regex.Search

/-!
Calls whose arguments have their final form. Preparing a call checks what can be checked without
running it; a call whose arguments are all literals is checked when it is compiled.
-/

namespace Reshape

/-- A function with its arguments. -/
inductive FunctionCall (ε : Type) where
  | constant (value : Value)
  | deleted
  | nothing
  | throw (message : String)
  | variable (name : String)
  | content
  | json (path : List String)
  | incoming (key : Option String)
  | working (key : Option String)
  | batchIndex
  | batchSize
  | traceId
  | traceHeaders
  | environment (name : String)
  | now
  | unixTime
  | identifier
  | counter (least greatest : ε) (override : Option ε)
  | random (seed : ε) (least greatest : Int64)
  | count (name : String)
  | failing (failure : ComponentFailure)
  deriving Repr

/-- A method with its arguments. -/
inductive MethodCall (ε : Type) where
  /-- An operation on the value of the target. -/
  | plain (operation : Value → Except Error Value)
  /-- Another value where the target fails, or also where it has no value. -/
  | fallback (isForNull : Bool) (query : ε)
  | mapEach (query : ε)
  | filter (test : ε)
  | any (test : ε)
  | all (test : ε)
  | fold (initial : Value) (query : ε)
  | sort (before : ε)
  | sortBy (key : ε)

/-- The bounds of a generator, if they can be drawn between. -/
def randomBounds (least greatest : Int64) : Except Error Unit :=
  if least.toInt < 0 then .error (.arguments (.negativeMinimum least.toInt))
  else if greatest = Function.greatest then
    .error (.arguments (.reservedMaximum Function.greatest.toInt))
  else if greatest.toInt ≤ least.toInt then
    .error (.arguments (.emptyInterval least.toInt greatest.toInt))
  else .ok ()

variable {ε : Type} [Bindable ε]

/-- The call of a function with bound arguments. -/
def Function.prepare (function : Function) (bound : Bound ε) :
    Except Error (FunctionCall ε) :=
  match function with
  | .deleted => return .deleted
  | .nothing => return .nothing
  | .throw => return .throw (← bound.string "why")
  | .range => do
    let start ← bound.int "start"
    let stop ← bound.int "stop"
    let step ← bound.int "step"
    return .constant (← Range.build start stop step)
  | .var => return .variable (← bound.string "name")
  | .content => return .content
  | .json => return .json (Value.dotPath (← bound.string "path"))
  | .incoming => return .incoming (← bound.string? "key")
  | .working => return .working (← bound.string? "key")
  | .batchIndex => return .batchIndex
  | .batchSize => return .batchSize
  | .tracingId => return .traceId
  | .tracingSpan => return .traceHeaders
  | .env => return .environment (← bound.string "name")
  | .now => return .now
  | .timestampUnix => return .unixTime
  | .uuid => return .identifier
  | .counter => return .counter (← bound.query "min") (← bound.query "max") (bound.query? "set")
  | .randomInt => do
    let seed ← bound.query "seed"
    let least ← bound.int "min"
    let greatest ← bound.int "max"
    randomBounds least greatest
    return .random seed least greatest
  | .count => return .count (← bound.string "name")
  | .constant _ value => return .constant value
  | .failing _ failure => return .failing failure

namespace Method

/-- The operation on a text that gives a text. -/
def onText (operation : Text → Text) (value : Value) : Except Error Value := do
  return (operation (← Collection.text value)).toValue

/-- The operation on a text that gives a truth value. -/
def testing (test : Text → Bool) (value : Value) : Except Error Value := do
  return .bool (test (← Collection.text value))

/-- The algorithm of a name. -/
def algorithm (name : String) : Except Error HashAlgorithm :=
  match HashAlgorithm.named? name with
  | some algorithm => .ok algorithm
  | none => .error (.arguments (.unknownAlgorithm name))

/-- The scheme of a name. -/
def scheme (name : String) : Except Error Scheme :=
  match Scheme.named? name with
  | some scheme => .ok scheme
  | none => .error (.arguments (.unknownScheme name))

/-- The searcher of a pattern. -/
def searcher (pattern : String) : Except Error Regex.Searcher :=
  match Regex.Searcher.ofText? pattern with
  | some searcher => .ok searcher
  | none => .error (.arguments .malformedPattern)

/-- The octets that a text writes in a scheme. -/
def decoded (scheme : Scheme) (value : Value) : Except Error Value := do
  match scheme.decode? (← Collection.text value).toOctets with
  | some octets => return .bytes octets
  | none => throw (.general .undecodable)

/-- The value that a text writes as JSON. -/
def parsedJson (value : Value) : Except Error Value := do
  match Value.parseJsonOctets? (← Collection.text value).toOctets with
  | some result => return result
  | none => throw (.general .malformedJson)

/-- The value, or what stands for it if it cannot be converted. -/
def converted (what : String) (convert : Value → Option Value) (standard : Option Value)
    (value : Value) : Except Error Value :=
  match (convert value).or standard with
  | some result => .ok result
  | none => .error (.expected what value)

/-- The call of a method with bound arguments. -/
def prepare (method : Method) (bound : Bound ε) : Except Error (MethodCall ε) :=
  match method with
  | .type => return .plain fun value => .ok (.string value.typeName)
  | .notNull => return .plain fun value =>
      if value.isNull then .error (.general .nullValue) else .ok value
  | .or => return .fallback true (← bound.query "fallback")
  | .catch => return .fallback false (← bound.query "fallback")
  | .bool => do
    let standard ← bound.bool? "default"
    return .plain (converted "bool" (fun value => value.toTruth?.map .bool) (standard.map .bool))
  | .notEmpty => return .plain Collection.notEmpty
  | .ceil => return .plain (Value.numeric (Value.round .up))
  | .floor => return .plain (Value.numeric (Value.round .down))
  | .round => return .plain (Value.numeric (Value.round .nearest))
  | .abs => return .plain (Value.numeric Value.absolute)
  | .number => return .plain (converted "number" Value.toNumber? (bound.get? "default"))
  | .int64 => return .plain Value.toSigned
  | .uint64 => return .plain Value.toUnsigned
  | .float64 => return .plain Value.toFloating
  | .uppercase => return .plain (onText Text.toUpper)
  | .lowercase => return .plain (onText Text.toLower)
  | .trim => return .plain (onText Text.trim)
  | .capitalize => return .plain (onText Text.capitalize)
  | .length => return .plain Collection.length
  | .contains => return .plain (Collection.contains (← bound.value "value"))
  | .hasPrefix => do
    let needle := Utf8.ofText (← bound.string "prefix")
    return .plain (testing (Text.startsWith · needle))
  | .hasSuffix => do
    let needle := Utf8.ofText (← bound.string "suffix")
    return .plain (testing (Text.endsWith · needle))
  | .replaceAll => do
    let old := Utf8.ofText (← bound.string "old")
    let new := Utf8.ofText (← bound.string "new")
    return .plain (onText (Text.replaceAll · old new))
  | .split => do
    let delimiter := Utf8.ofText (← bound.string "delimiter")
    return .plain fun value => do
      return .array (((← Collection.text value).split delimiter).map Text.toValue)
  | .reverse => return .plain Collection.reverse
  | .slice => do
    let low ← bound.int "low"
    let high ← bound.int? "high"
    return .plain (Collection.slice low.toInt (high.map Int64.toInt))
  | .string => return .plain fun value => .ok (.string value.display)
  | .bytes => return .plain fun value => .ok (.bytes value.octets)
  | .format => do
    let arguments := bound.values
    return .plain fun value => do
      return .string (← Template.fill (← Collection.text value).lossy arguments)
  | .quote => return .plain fun value => do
      return .string (Json.quote (← Collection.text value).lossy)
  | .hash => do
    let algorithm ← algorithm (← bound.string "algorithm")
    return .plain fun value => do
      return .bytes (algorithm.digest (← Collection.text value).toOctets)
  | .encode => do
    let scheme ← scheme (← bound.string "scheme")
    return .plain fun value => do
      return .string (Utf8.toText (scheme.encode (← Collection.text value).toOctets))
  | .decode => return .plain (decoded (← scheme (← bound.string "scheme")))
  | .parseJson => return .plain parsedJson
  | .formatJson => do
    let indent ← bound.string "indent"
    let isCompact ← bound.bool "no_indent"
    return .plain fun value =>
      .ok (.string (if isCompact then value.compact else value.toJson.pretty indent))
  | .reMatch => do
    let searcher ← searcher (← bound.string "pattern")
    return .plain (testing searcher.occursIn)
  | .reFindAll => do
    let searcher ← searcher (← bound.string "pattern")
    return .plain fun value => do
      return .array ((searcher.findAll (← Collection.text value)).map Text.toValue)
  | .reReplaceAll => do
    let searcher ← searcher (← bound.string "pattern")
    let replacement ← bound.string "value"
    return .plain (onText (searcher.replaceAll · replacement))
  | .mapEach => return .mapEach (← bound.query "query")
  | .filter => return .filter (← bound.query "test")
  | .any => return .any (← bound.query "test")
  | .all => return .all (← bound.query "test")
  | .fold => return .fold (← bound.value "initial") (← bound.query "query")
  | .sort =>
    match bound.query? "compare" with
    | some before => return .sort before
    | none => return .plain Collection.sort
  | .sortBy => return .sortBy (← bound.query "query")
  | .sum => return .plain Collection.sum
  | .join => return .plain (Collection.join (← bound.string "delimiter"))
  | .keys => return .plain Collection.keys
  | .values => return .plain Collection.values
  | .index => return .plain (Collection.index (← bound.int "index").toInt)
  | .append => return .plain (Collection.append bound.values)
  | .merge => do
    let source ← bound.value "with"
    return .plain fun value => .ok (Collection.merge value source)
  | .without => return .plain (Collection.without (← Collection.paths bound.values))
  | .exists => do
    let path := Value.dotPath (← bound.string "path")
    return .plain fun value => .ok (.bool (value.get? path).isSome)
  | .get => do
    let path := Value.dotPath (← bound.string "path")
    return .plain fun value => .ok (value.getOrNull path)
  | .flatten => return .plain Collection.flatten
  | .unique => return .plain Collection.unique
  | .identity _ => return .plain .ok

end Method

end Reshape
