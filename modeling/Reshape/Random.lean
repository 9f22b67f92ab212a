/-!
Pseudo-random integers: a generator with four words of state, seeded from one word, and unbiased
draws from an interval.
-/

namespace Reshape

/-- The state of a generator. -/
structure Generator where
  first : UInt64
  second : UInt64
  third : UInt64
  fourth : UInt64
  deriving DecidableEq, Repr

namespace Generator

/-- The scrambled form of a word that seeds are spread by. -/
def spread (word : UInt64) : UInt64 :=
  let a := (word ^^^ (word >>> 30)) * 0xbf58476d1ce4e5b9
  let b := (a ^^^ (a >>> 27)) * 0x94d049bb133111eb
  b ^^^ (b >>> 31)

/-- The distance between the words that a seed is spread from. -/
def stride : UInt64 := 0x9e3779b97f4a7c15

/-- The generator of a seed. -/
def seeded (seed : UInt64) : Generator :=
  ⟨spread (seed + stride), spread (seed + 2 * stride), spread (seed + 3 * stride),
    spread (seed + 4 * stride)⟩

/-- A word with its bits rotated to the left. -/
def rotated (word amount : UInt64) : UInt64 :=
  (word <<< amount) ||| (word >>> (64 - amount))

/-- The word that the state gives. -/
def output (state : Generator) : UInt64 :=
  rotated (state.second * 5) 7 * 9

/-- The next state. -/
def next (state : Generator) : Generator :=
  let third := state.third ^^^ state.first
  let fourth := state.fourth ^^^ state.second
  { first := state.first ^^^ fourth
    second := state.second ^^^ third
    third := third ^^^ (state.second <<< 17)
    fourth := rotated fourth 45 }

/-- The greatest low half of a product that keeps draws from as many integers unbiased. -/
def zone (count : Nat) : Nat :=
  count <<< (63 - count.log2) - 1

/-- A number below a positive count of at most 64 bits: the high half of a word times the count. A
word is drawn again while the low half would make some numbers more likely, as long as draws are
left. -/
def below (count : Nat) : Nat → Generator → Nat × Generator
  | 0, state => ((state.output.toNat * count) >>> 64, state.next)
  | draws + 1, state =>
    let product := state.output.toNat * count
    -- Each number has as many words with a low half in the zone as any other.
    if product % 0x10000000000000000 ≤ zone count then (product >>> 64, state.next)
    else below count draws state.next

/-- How often a word is drawn again. -/
def drawLimit : Nat := 1024

/-- An integer from the least to the greatest, both included. -/
def between (least greatest : Int) (state : Generator) : Int × Generator :=
  let (n, state) := below (greatest - least + 1).toNat drawLimit state
  (least + n, state)

end Generator

end Reshape
