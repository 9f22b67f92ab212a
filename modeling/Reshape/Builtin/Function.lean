import Reshape.Call.Parameter

/-! The functions that an expression can call, and the parameters they take. -/

namespace Reshape

/-- A function. -/
inductive Function where
  | deleted
  | nothing
  | throw
  | range
  | var
  | content
  | json
  /-- The metadata that a message came with. -/
  | incoming
  /-- The metadata as assigned so far. -/
  | working
  | batchIndex
  | batchSize
  | tracingId
  | tracingSpan
  | env
  | now
  | timestampUnix
  | uuid
  | counter
  | randomInt
  | count
  /-- A function of the application that is a constant. -/
  | constant (name : String) (value : Value)
  /-- A function of the application that fails in one of its components. -/
  | failing (name : String) (failure : ComponentFailure)
  deriving Repr

namespace Function

/-- The name that calls use. -/
def name : Function → String
  | .deleted => "deleted"
  | .nothing => "nothing"
  | .throw => "throw"
  | .range => "range"
  | .var => "var"
  | .content => "content"
  | .json => "json"
  | .incoming => "meta"
  | .working => "metadata"
  | .batchIndex => "batch_index"
  | .batchSize => "batch_size"
  | .tracingId => "tracing_id"
  | .tracingSpan => "tracing_span"
  | .env => "env"
  | .now => "now"
  | .timestampUnix => "timestamp_unix"
  | .uuid => "uuid_v4"
  | .counter => "counter"
  | .randomInt => "random_int"
  | .count => "count"
  | .constant name _ => name
  | .failing name _ => name

/-- The greatest signed integer of 64 bits. -/
def greatest : Int64 := 9223372036854775807

/-- The parameters of a function. -/
def signature : Function → Signature
  | .throw => .of [.required "why" .string "the error message"]
  | .range => .of [
      .required "start" .int "the first value",
      .required "stop" .int "the exclusive upper bound",
      (Parameter.required "step" .int "the increment, may be negative").defaulting (.int 1)]
  | .var => .of [.required "name" .string "the variable name"]
  | .json => .of [
      (Parameter.required "path" .string "dot path of the field to read").defaulting (.string "")]
  | .incoming | .working => .of [(Parameter.required "key" .string "the metadata key").optional]
  | .env => .of [.required "name" .string "the variable name"]
  | .counter => .of [
      (Parameter.required "min" .query "the first value").defaulting (.int 1),
      (Parameter.required "max" .query "the last value before starting over").defaulting
        (.int greatest),
      (Parameter.required "set" .query "an optional override evaluated on every call").optional]
  | .randomInt => .of [
      (Parameter.required "seed" .query "seed for the generator").defaulting (.int 0),
      ((Parameter.required "min" .int "the smallest value").defaulting (.int 0)).static,
      ((Parameter.required "max" .int "the largest value").defaulting (.int (greatest - 1))).static]
  | .count => .of [.required "name" .string "the counter name"]
  | .deleted | .nothing | .content | .batchIndex | .batchSize | .tracingId | .tracingSpan | .now
  | .timestampUnix | .uuid | .constant .. | .failing .. => .of []

end Function

end Reshape
