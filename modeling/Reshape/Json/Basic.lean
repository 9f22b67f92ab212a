import Reshape.Number.Binary64

/-! The tree of a JSON text. Members keep the order and the repetitions they are written in. -/

namespace Reshape

/-- A JSON text as a tree. -/
inductive Json where
  | null
  | bool (value : Bool)
  /-- A number written without point and exponent. -/
  | integer (value : Int)
  /-- Any other number. -/
  | float (value : Binary64)
  | string (text : String)
  | array (items : List Json)
  | object (members : List (String × Json))
  deriving Repr

/-- The member of an object under a name, the last one if there are several. -/
def Json.member? (name : String) : Json → Option Json
  | .object members => members.reverse.lookup name
  | _ => none

end Reshape
