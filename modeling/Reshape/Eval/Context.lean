import Reshape.Message
import Reshape.Value.Path

/-!
Contexts: what an expression can read while it is evaluated. Methods narrow the current value to an
element; a lambda gives the element a name and turns back to the value that was current before. The
point in time that is read has a text: the date of the civil calendar and the time of day, both for
the zone without an offset.
-/

namespace Reshape

/-- A point in time: the seconds since the start of 1970 and the nanoseconds after the last one. -/
structure Instant where
  seconds : Int
  nanoseconds : Nat
  deriving DecidableEq, Repr

namespace Instant

/-- A number in decimal digits, filled up with zeros on the left. -/
def padded (width n : Nat) : String :=
  let digits := toString n
  String.ofList (List.replicate (width - digits.length) '0') ++ digits

/-- The year, month and day of a number of days since the start of 1970. Years are counted from
March on, so that the day a leap year adds is the last one of its year. -/
def civil (days : Int) : Int × Nat × Nat :=
  -- Days are counted from March of the year 0, where an era of 400 years starts.
  let shifted := days + 719468
  let era := shifted.fdiv 146097
  let dayOfEra := (shifted.fmod 146097).toNat
  let yearOfEra :=
    (dayOfEra - dayOfEra / 1460 + dayOfEra / 36524 - dayOfEra / 146096) / 365
  let dayOfYear := dayOfEra - (365 * yearOfEra + yearOfEra / 4 - yearOfEra / 100)
  let monthFromMarch := (5 * dayOfYear + 2) / 153
  let day := dayOfYear - (153 * monthFromMarch + 2) / 5 + 1
  let month := if monthFromMarch < 10 then monthFromMarch + 3 else monthFromMarch - 9
  let year := yearOfEra + era * 400 + (if month ≤ 2 then 1 else 0)
  (year, month, day)

/-- The digits behind the seconds: none, or the fewest groups of three that tell the fraction. -/
def fraction (nanoseconds : Nat) : String :=
  if nanoseconds = 0 then ""
  else if nanoseconds % 1000000 = 0 then "." ++ padded 3 (nanoseconds / 1000000)
  else if nanoseconds % 1000 = 0 then "." ++ padded 6 (nanoseconds / 1000)
  else "." ++ padded 9 nanoseconds

/-- The text of a point in time. -/
def text (instant : Instant) : String :=
  let (year, month, day) := civil (instant.seconds.fdiv 86400)
  let second := (instant.seconds.fmod 86400).toNat
  let date := padded 4 year.toNat ++ "-" ++ padded 2 month ++ "-" ++ padded 2 day
  let time := padded 2 (second / 3600) ++ ":" ++ padded 2 (second / 60 % 60) ++ ":" ++
    padded 2 (second % 60)
  date ++ "T" ++ time ++ fraction instant.nanoseconds ++ "+00:00"

end Instant

/-- What an expression can learn of the world that its mapping runs in. -/
structure Surroundings where
  /-- The variables of the process. -/
  processVariables : List (String × String)
  now : Instant
  deriving Repr

/-- What an expression can read. -/
structure Context where
  /-- The current value; there is none if the message holds no value. -/
  value : Option Value
  /-- The values that were current before, the last one first. -/
  outer : List (Option Value)
  /-- The values that lambdas have named, the last one first. -/
  names : List (String × Value)
  /-- The document under construction. -/
  root : Option Value
  locals : Fields Value
  /-- The metadata as assigned so far. -/
  metadata : Fields Value
  batch : Option Batch
  /-- The position of the message in its batch. -/
  index : Nat
  surroundings : Surroundings
  deriving Repr

namespace Context

/-- A context with surroundings and nothing else. -/
def bare (surroundings : Surroundings) : Context :=
  ⟨none, [], [], none, [], [], none, 0, surroundings⟩

/-- The context with another current value. -/
def narrow (context : Context) (value : Value) : Context :=
  { context with value := some value, outer := context.value :: context.outer }

/-- The context with the value that was current before, and a name for another value. -/
def bind (context : Context) (name : String) (value : Value) : Context :=
  let named := { context with names := (name, value) :: context.names }
  match context.outer with
  | [] => named
  | before :: outer => { named with value := before, outer }

/-- The value that a lambda has named; of several, the last one. -/
def named? (context : Context) (name : String) : Option Value :=
  context.names.lookup name

/-- The value that a path starts from. -/
def get (context : Context) (path : List String) : Except Error Value :=
  match context.value with
  | some value => .ok (value.getOrNull path)
  | none => .error (.noContext (".".intercalate path))

end Context

end Reshape
