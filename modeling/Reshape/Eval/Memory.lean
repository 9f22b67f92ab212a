import Reshape.Error
import Reshape.Random

/-!
Memory: what evaluation keeps from one message to the next. Every call of a function with memory has
a cell of its own, found by where the call stands in its mapping: a counter keeps a tally there, which
starts over after its greatest value. Named counters and the source of identifiers are shared by all
mappings of an environment.
-/

namespace Reshape

/-- A counter. -/
structure Tally where
  least : Int
  greatest : Int
  /-- The last value given, or one less than the least before the first. -/
  current : Int
  deriving DecidableEq, Repr

namespace Tally

/-- A counter before its first value, if the bounds allow for one. -/
def between (least greatest : Int) : Except ArgumentFault Tally :=
  if least < 0 then .error (.negativeMinimum least)
  else if greatest ≤ least then .error (.emptyInterval least greatest)
  else .ok ⟨least, greatest, least - 1⟩

/-- The counter before its first value. -/
def restarted (tally : Tally) : Tally :=
  { tally with current := tally.least - 1 }

/-- The next value, the greatest one for any value beyond it, and the counter after it. -/
def next (tally : Tally) : Int × Tally :=
  if tally.current + 1 < tally.greatest then
    (tally.current + 1, { tally with current := tally.current + 1 })
  else (tally.greatest, tally.restarted)

end Tally

/-- Where an expression stands: its position among the parts of the expression around it, the
position of that one, and so on to the statement. -/
abbrev Site := List Nat

/-- What a call keeps. -/
inductive Cell where
  | tally (tally : Tally)
  /-- The seed of a generator, which is evaluated once even if it is of no use. -/
  | seed (value : Value)
  | generator (state : Generator)
  deriving Repr

/-- What the mappings of an environment share. -/
structure Shared where
  /-- The values of counters under their names. -/
  counters : Fields Int64
  /-- What identifiers are drawn from. -/
  entropy : Generator
  deriving Repr

/-- What evaluation keeps. -/
structure Memory where
  cells : List (Site × Cell)
  shared : Shared
  deriving Repr

namespace Shared

/-- No counters, and a source of identifiers. -/
def seeded (seed : UInt64) : Shared := ⟨[], .seeded seed⟩

/-- The next value of a named counter, the first one being 1, and what is shared after it. -/
def count (shared : Shared) (name : String) : Int64 × Shared :=
  let value := (shared.counters.get? name).getD 0 + 1
  (value, { shared with counters := shared.counters.insert name value })

/-- A number in lower-case hexadecimal digits, filled up with zeros on the left. -/
def hexadecimal (width n : Nat) : List Char :=
  let digits := Nat.toDigits 16 n
  List.replicate (width - digits.length) '0' ++ digits

/-- The text of an identifier of random bits, version 4. -/
def identifierText (high low : UInt64) : String :=
  let high := (high.toNat >>> 16) <<< 16 + 0x4000 + high.toNat % 0x1000
  let low := 0x8000000000000000 + low.toNat % 0x4000000000000000
  let digits := hexadecimal 16 high ++ hexadecimal 16 low
  "-".intercalate ([(0, 8), (8, 4), (12, 4), (16, 4), (20, 12)].map fun (start, length) =>
    String.ofList ((digits.drop start).take length))

/-- A new identifier, and what is shared after it. -/
def identifier (shared : Shared) : String × Shared :=
  let after := shared.entropy.next
  (identifierText shared.entropy.output after.output, { shared with entropy := after.next })

end Shared

namespace Memory

/-- The memory of a mapping that has not run. -/
def fresh (shared : Shared) : Memory := ⟨[], shared⟩

/-- What a call has kept. -/
def cell? (memory : Memory) (site : Site) : Option Cell :=
  memory.cells.lookup site

/-- The memory in which a call keeps something. -/
def keep (memory : Memory) (site : Site) (cell : Cell) : Memory :=
  { memory with cells := (site, cell) :: memory.cells.filter fun (other, _) => other != site }

end Memory

end Reshape
