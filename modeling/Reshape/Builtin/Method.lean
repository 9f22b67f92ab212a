import Reshape.Call.Parameter

/-! The methods that can be called on the value of an expression, and the parameters they take. -/

namespace Reshape

/-- A method. -/
inductive Method where
  | type
  | notNull
  | or
  | catch
  | bool
  | notEmpty
  | ceil
  | floor
  | round
  | abs
  | number
  | int64
  | uint64
  | float64
  | uppercase
  | lowercase
  | trim
  | capitalize
  | length
  | contains
  | hasPrefix
  | hasSuffix
  | replaceAll
  | split
  | reverse
  | slice
  | string
  | bytes
  | format
  | quote
  | hash
  | encode
  | decode
  | parseJson
  | formatJson
  | reMatch
  | reFindAll
  | reReplaceAll
  | mapEach
  | filter
  | any
  | all
  | fold
  | sort
  | sortBy
  | sum
  | join
  | keys
  | values
  | index
  | append
  | merge
  | without
  | exists
  | get
  | flatten
  | unique
  /-- A method of the application that gives its target. -/
  | identity (name : String)
  deriving DecidableEq, Repr

namespace Method

/-- The name that calls use. -/
def name : Method → String
  | .type => "type"
  | .notNull => "not_null"
  | .or => "or"
  | .catch => "catch"
  | .bool => "bool"
  | .notEmpty => "not_empty"
  | .ceil => "ceil"
  | .floor => "floor"
  | .round => "round"
  | .abs => "abs"
  | .number => "number"
  | .int64 => "int64"
  | .uint64 => "uint64"
  | .float64 => "float64"
  | .uppercase => "uppercase"
  | .lowercase => "lowercase"
  | .trim => "trim"
  | .capitalize => "capitalize"
  | .length => "length"
  | .contains => "contains"
  | .hasPrefix => "has_prefix"
  | .hasSuffix => "has_suffix"
  | .replaceAll => "replace_all"
  | .split => "split"
  | .reverse => "reverse"
  | .slice => "slice"
  | .string => "string"
  | .bytes => "bytes"
  | .format => "format"
  | .quote => "quote"
  | .hash => "hash"
  | .encode => "encode"
  | .decode => "decode"
  | .parseJson => "parse_json"
  | .formatJson => "format_json"
  | .reMatch => "re_match"
  | .reFindAll => "re_find_all"
  | .reReplaceAll => "re_replace_all"
  | .mapEach => "map_each"
  | .filter => "filter"
  | .any => "any"
  | .all => "all"
  | .fold => "fold"
  | .sort => "sort"
  | .sortBy => "sort_by"
  | .sum => "sum"
  | .join => "join"
  | .keys => "keys"
  | .values => "values"
  | .index => "index"
  | .append => "append"
  | .merge => "merge"
  | .without => "without"
  | .exists => "exists"
  | .get => "get"
  | .flatten => "flatten"
  | .unique => "unique"
  | .identity name => name

/-- The parameter of a pattern. -/
def patternParameter : Parameter :=
  (Parameter.required "pattern" .string "the regular expression").static

/-- A parameter whose query runs on each element. -/
def elementQuery (name description : String) : Parameter :=
  (Parameter.required name .query description).onTarget

/-- The parameters of a method. -/
def signature : Method → Signature
  | .or => .of [.required "fallback" .query "the value used instead"]
  | .catch => .of [.required "fallback" .query "the value used when the target fails"]
  | .bool => .of [
      (Parameter.required "default" .bool "returned when the value cannot be converted").optional]
  | .number => .of [
      (Parameter.required "default" .any "returned when the value cannot be converted").optional]
  | .contains => .of [.required "value" .any "the substring or element to look for"]
  | .hasPrefix => .of [.required "prefix" .string "the expected start"]
  | .hasSuffix => .of [.required "suffix" .string "the expected end"]
  | .replaceAll => .of [
      .required "old" .string "the text to replace",
      .required "new" .string "the replacement"]
  | .split => .of [.required "delimiter" .string "the separator"]
  | .slice => .of [
      .required "low" .int "the first index",
      (Parameter.required "high" .int "the exclusive end index").optional]
  | .hash => .of [(Parameter.required "algorithm" .string "the hash algorithm").static]
  | .encode | .decode => .of [(Parameter.required "scheme" .string "the encoding scheme").static]
  | .formatJson => .of [
      (Parameter.required "indent" .string "the indentation of each level").defaulting
        (.string "    "),
      (Parameter.required "no_indent" .bool "serialise without any whitespace").defaulting
        (.bool false)]
  | .reMatch | .reFindAll => .of [patternParameter]
  | .reReplaceAll => .of [patternParameter, .required "value" .string "the replacement"]
  | .mapEach => .of [elementQuery "query" "the query applied to each element"]
  | .filter | .any | .all => .of [elementQuery "test" "a query returning a boolean"]
  | .fold => .of [
      .required "initial" .any "the starting tally",
      elementQuery "query" "computes the next tally"]
  | .sort => .of [(elementQuery "compare" "returns true when left sorts first").optional]
  | .sortBy => .of [elementQuery "query" "extracts the sort key"]
  | .join => .of [
      (Parameter.required "delimiter" .string "inserted between elements").defaulting (.string "")]
  | .index => .of [.required "index" .int "the position"]
  | .merge => .of [.required "with" .any "the value merged into the target"]
  | .exists => .of [.required "path" .string "the dot path to check"]
  | .get => .of [.required "path" .string "the dot path to read"]
  | .format | .append | .without => .variadic
  | .type | .notNull | .notEmpty | .ceil | .floor | .round | .abs | .int64 | .uint64 | .float64
  | .uppercase | .lowercase | .trim | .capitalize | .length | .reverse | .string | .bytes | .quote
  | .parseJson | .sum | .keys | .values | .flatten | .unique | .identity _ => .of []

end Method

end Reshape
