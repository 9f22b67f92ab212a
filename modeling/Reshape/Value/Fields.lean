/-!
Fields: values under names, kept in the order of the names. A name occurs once; the order of names
is that of their code points, which is also the order of their octets.
-/

namespace Reshape

/-- Values under names, in ascending order of the names. -/
abbrev Fields (α : Type) := List (String × α)

namespace Fields

variable {α : Type}

/-- The value under a name. -/
def get? (name : String) : Fields α → Option α
  | [] => none
  | (other, value) :: rest => if other = name then some value else get? name rest

/-- The fields with a value under a name, in place of any value it had. -/
def insert (name : String) (value : α) : Fields α → Fields α
  | [] => [(name, value)]
  | (other, old) :: rest =>
    if other = name then (name, value) :: rest
    else if name < other then (name, value) :: (other, old) :: rest
    else (other, old) :: insert name value rest

/-- The fields without a name. -/
def erase (name : String) (fields : Fields α) : Fields α :=
  fields.filter fun (other, _) => other != name

/-- The fields that pairs make, the last of several values under one name winning. -/
def ofList (pairs : List (String × α)) : Fields α :=
  pairs.foldl (fun fields (name, value) => fields.insert name value) []

/-- Whether the names stand in strictly ascending order. -/
def Ordered : Fields α → Prop
  | [] => True
  | [_] => True
  | (first, _) :: (second, value) :: rest => first < second ∧ Ordered ((second, value) :: rest)

/-- The names, in order. -/
def names (fields : Fields α) : List String :=
  fields.map Prod.fst

/-- The values, in the order of their names. -/
def values (fields : Fields α) : List α :=
  fields.map Prod.snd

end Fields

end Reshape
