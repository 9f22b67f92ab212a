import Reshape.Value.Basic

/-!
Paths into values. A path is a list of segments, each a name in an object or a position in an
array. Reading a path never fails, writing one creates the objects it needs, and deleting one
removes a single slot.
-/

namespace Reshape.Value

/-- The slot that a segment names in a container. -/
def child? (segment : String) : Value → Option Value
  | .object fields => Fields.get? segment fields
  | .array items => (Numeral.position? segment).bind fun index => items[index]?
  | _ => none

/-- The value at a path. -/
def get? : List String → Value → Option Value
  | [], value => some value
  | segment :: rest, value => (value.child? segment).bind (get? rest)

/-- The value at a path, null if there is none. -/
def getOrNull (path : List String) (value : Value) : Value :=
  (get? path value).getD .null

/-- The value with another one at a path. A position beyond an array, and anything but a container
on the way, is replaced by an object. -/
def set : List String → Value → Value → Value
  | [], new, _ => new
  | segment :: rest, new, target =>
    let fresh := fun fields =>
      let old := (Fields.get? segment fields).getD .null
      .object (Fields.insert segment (set rest new old) fields)
    match target with
    | .array items =>
      match (Numeral.position? segment).bind fun index => items[index]?.map (index, ·) with
      | some (index, item) => .array (items.set index (set rest new item))
      | none => fresh []
    | .object fields => fresh fields
    | _ => fresh []

/-- The value without the slot at a path, if there is such a slot. -/
def delete? : List String → Value → Option Value
  | [], _ => none
  | [segment], .object fields =>
    (Fields.get? segment fields).map fun _ => .object (Fields.erase segment fields)
  | [segment], .array items =>
    (Numeral.position? segment).bind fun index =>
      if index < items.length then some (.array (items.eraseIdx index)) else none
  | segment :: next :: rest, .object fields => do
    let inner ← delete? (next :: rest) (← Fields.get? segment fields)
    return .object (Fields.insert segment inner fields)
  | segment :: next :: rest, .array items => do
    let index ← Numeral.position? segment
    let inner ← delete? (next :: rest) (← items[index]?)
    return .array (items.set index inner)
  | _, _ => none

/-- The value without the slot at a path, or the value itself if there is no such slot. -/
def deletePath (path : List String) (value : Value) : Value :=
  (delete? path value).getD value

/-- The segments that a text between dots writes; the empty text is the empty path. -/
def dotPath (text : String) : List String :=
  if text.isEmpty then [] else (List.splitOn '.' text.toList).map String.ofList

end Reshape.Value
