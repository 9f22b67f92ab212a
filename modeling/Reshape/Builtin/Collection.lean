import Reshape.Error
import Reshape.Value.Arithmetic
import Reshape.Value.Path
import Reshape.Value.Text

/-!
Operations on arrays and objects. Those that run a query for each element are written for any monad
in which errors can be thrown, and ask for the query as a function of the element.
-/

namespace Reshape.Collection

/-- The items of an array. -/
def items : Value → Except Error (List Value)
  | .array items => .ok items
  | value => .error (.expected "array" value)

/-- The fields of an object. -/
def fields : Value → Except Error (Fields Value)
  | .object fields => .ok fields
  | value => .error (.expected "object" value)

/-- The text of a string or of octets. -/
def text (value : Value) : Except Error Text :=
  match value.toText? with
  | some text => .ok text
  | none => .error (.expected "string" value)

/-- The object of an entry of an object. -/
def entry (name : String) (value : Value) : Value :=
  .object [("key", .string name), ("value", value)]

/-- The object of a tally and the next item. -/
def tallied (tally item : Value) : Value :=
  .object [("tally", tally), ("value", item)]

/-- The object of two items that are compared. -/
def compared (left right : Value) : Value :=
  .object [("left", left), ("right", right)]

section Queries

variable {m : Type → Type} [Monad m] [MonadExceptOf Error m]

/-- The truth value that a test gives; anything else is an error under the label of the test. -/
def predicate (label : String) (run : Value → m Value) (value : Value) : m Bool := do
  match ← run value with
  | .bool result => return result
  | other => throw ((Error.expected "bool" other).label label)

/-- What becomes of an element when a query gives a value for it: the markers drop it or keep it as
it is. -/
def mapped (element result : Value) : Option Value :=
  match result with
  | .delete => none
  | .nothing => some element
  | result => some result

/-- Applies a query to each item or entry. -/
def mapEach (run : Value → m Value) : Value → m Value
  | .array items => do
    return .array (← items.filterMapM fun item => do return mapped item (← run item))
  | .object fields => do
    return .object (← fields.filterMapM fun (name, value) => do
      return (mapped value (← run (entry name value))).map (name, ·))
  | value => throw (.expected "array or object" value)

/-- Keeps the items or entries that a test accepts. -/
def filter (test : Value → m Bool) : Value → m Value
  | .array items => do
    return .array (← items.filterMapM fun item => do
      return if ← test item then some item else none)
  | .object fields => do
    return .object (← fields.filterMapM fun (name, value) => do
      return if ← test (entry name value) then some (name, value) else none)
  | value => throw (.expected "array or object" value)

/-- Whether a test accepts an item; it is not asked again after one. -/
def any (test : Value → m Bool) (value : Value) : m Value :=
  match items value with
  | .ok items => do return .bool (← items.anyM test)
  | .error error => throw error

/-- Whether there are items and a test accepts all; it is not asked again after a refusal. -/
def all (test : Value → m Bool) (value : Value) : m Value :=
  match items value with
  | .ok items => do return .bool (!items.isEmpty && (← items.allM test))
  | .error error => throw error

/-- The last tally, a query giving the next one for each item. -/
def fold (run : Value → m Value) (initial value : Value) : m Value :=
  match items value with
  | .ok items => items.foldlM (fun tally item => run (tallied tally item)) initial
  | .error error => throw error

variable {α : Type}

/-- Two sequences merged: an item of the second goes first only if it is less. -/
def mergeSorted (less : α → α → m Bool) : List α → List α → m (List α)
  | [], right => return right
  | left, [] => return left
  | a :: left, b :: right => do
    if ← less b a then return b :: (← mergeSorted less (a :: left) right)
    else return a :: (← mergeSorted less left (b :: right))
termination_by left right => left.length + right.length

/-- A sequence sorted by merging its sorted halves. -/
def sortItems (less : α → α → m Bool) (items : List α) : m (List α) :=
  if _long : items.length ≤ 1 then return items
  else do
    let left ← sortItems less (items.take (items.length / 2))
    let right ← sortItems less (items.drop (items.length / 2))
    mergeSorted less left right
termination_by items.length
decreasing_by
  all_goals simp only [List.length_take, List.length_drop]; omega

end Queries

/-- Whether a value comes before another one; values without an order are an error. -/
def comesBefore (left right : Value) : Except Error Bool :=
  match left.compare? right with
  | some order => .ok (order == .lt)
  | none => .error (.general (.incomparable left.typeName right.typeName))

/-- The items in their natural order. -/
def sort (value : Value) : Except Error Value := do
  return .array (← sortItems comesBefore (← items value))

/-- Items under keys in the natural order of the keys. -/
def sortKeyed (keyed : List (Value × Value)) : Except Error Value := do
  let sorted ← sortItems (fun a b => comesBefore a.1 b.1) keyed
  return .array (sorted.map Prod.snd)

/-- The sum of numbers. -/
def sum (value : Value) : Except Error Value := do
  (← items value).foldlM (fun total item =>
    match Value.combine Value.addition total item with
    | some total => .ok total
    | none => .error (.expected "number" item)) (.int 0)

/-- The text of a string. -/
def string : Value → Except Error String
  | .string text => .ok text
  | value => .error (.expected "string" value)

/-- Strings with a delimiter between them. -/
def join (delimiter : String) (value : Value) : Except Error Value := do
  return .string (delimiter.intercalate (← (← items value).mapM string))

/-- The names of an object. -/
def keys (value : Value) : Except Error Value := do
  return .array ((← fields value).map fun (name, _) => .string name)

/-- The values of an object. -/
def values (value : Value) : Except Error Value := do
  return .array ((← fields value).map Prod.snd)

/-- The item at an index, a negative one counting from the end. -/
def index (index : Int) (value : Value) : Except Error Value := do
  let items ← items value
  let position := if index < 0 then items.length + index else index
  let found := if position < 0 then none else items[position.toNat]?
  match found with
  | some item => return item
  | none => throw (.general (.indexOutOfBounds index items.length))

/-- An array with more items at its end. -/
def append (more : List Value) (value : Value) : Except Error Value := do
  return .array ((← items value) ++ more)

mutual

/-- Merges a value into another one: objects name by name, arrays end to end, an array with
anything else as its last item, and two other values into an array of both. -/
def merge (destination : Value) : Value → Value
  | .object source =>
    match destination with
    | .object target => .object (mergeFields target source)
    | .array items => .array (items ++ [.object source])
    | other => .array [other, .object source]
  | .array source =>
    match destination with
    | .array items => .array (items ++ source)
    | other => .array [other, .array source]
  | source =>
    match destination with
    | .array items => .array (items ++ [source])
    | other => .array [other, source]

/-- Merges fields into fields. -/
def mergeFields (target : Fields Value) : List (String × Value) → Fields Value
  | [] => target
  | (name, value) :: rest =>
    let merged := match Fields.get? name target with
      | some existing => merge existing value
      | none => value
    mergeFields (Fields.insert name merged target) rest

end

/-- The paths that texts write. -/
def paths (texts : List Value) : Except Error (List (List String)) :=
  texts.mapM fun text => (string text).map Value.dotPath

/-- An object without what stands at some paths. -/
def without (paths : List (List String)) (value : Value) : Except Error Value := do
  let _ ← fields value
  return paths.foldl (fun value path => value.deletePath path) value

/-- The items with those of arrays among them in the place of the arrays. -/
def flatten (value : Value) : Except Error Value := do
  return .array ((← items value).flatMap fun
    | .array inner => inner
    | item => [item])

/-- The items that equal none of those kept before them, given the kept ones, the last first. -/
def distinct {α : Type} (equal : α → α → Bool) (kept : List α) : List α → List α
  | [] => kept.reverse
  | item :: rest =>
    if kept.reverse.any fun other => equal other item then distinct equal kept rest
    else distinct equal (item :: kept) rest

/-- The items without those that equal an earlier one, for any way to compare them. -/
def uniqueBy {α : Type} (equal : α → α → Bool) (items : List α) : List α :=
  distinct equal [] items

/-- The items without those that equal an earlier one. -/
def unique (value : Value) : Except Error Value := do
  return .array (uniqueBy (· == ·) (← items value))

/-- Whether an array has an item or a text has a needle; any other needle is sought as its text. -/
def contains (wanted value : Value) : Except Error Value := do
  match value with
  | .array items => return .bool (items.any fun item => item == wanted)
  | value =>
    let needle := match wanted.toText? with
      | some text => text.toOctets
      | none => Utf8.ofText wanted.display
    return .bool ((← text value).contains needle)

/-- The number of items, fields, code points or octets. -/
def length (value : Value) : Except Error Value := do
  match value with
  | .array items => return .int (Int64.ofInt items.length)
  | .object fields => return .int (Int64.ofInt fields.length)
  | value => return .int (Int64.ofInt (← text value).length)

/-- The items or the text in reverse order. -/
def reverse (value : Value) : Except Error Value := do
  match value with
  | .array items => return .array items.reverse
  | value => return (← text value).reverse.toValue

/-- A stretch whose bounds do not cross, or the error that they do. -/
def ordered {α : Type} : Except Stretch α → Except Error α
  | .ok result => .ok result
  | .error crossed => .error (.general (.crossedBounds crossed.start crossed.stop))

/-- The part of an array or a text between two indices. -/
def slice (low : Int) (high : Option Int) (value : Value) : Except Error Value := do
  match value with
  | .array items =>
    let stretch ← ordered (Stretch.between items.length low high)
    return .array (stretch.items items)
  | value => return (← ordered ((← text value).slice low high)).toValue

/-- The value, unless it is a text, an array or an object with nothing in it. -/
def notEmpty (value : Value) : Except Error Value :=
  let emptiness := match value with
    | .string text => some text.isEmpty
    | .bytes octets => some octets.isEmpty
    | .array items => some items.isEmpty
    | .object fields => some fields.isEmpty
    | _ => none
  match emptiness with
  | some true => .error (.general (.emptyValue value.typeName))
  | some false => .ok value
  | none => .error (.expected "string, array or object" value)

end Reshape.Collection
