import Reshape.Text.Utf8

/-!
The secure hashes of the second family. Their constants are the leading bits of the fractional
parts of roots of prime numbers, and are computed as such.
-/

namespace Reshape.Sha2

/-- The first primes, as many as asked for. -/
def primes (count : Nat) : List Nat :=
  let isPrime := fun n => 2 ≤ n && (List.range n).all fun d => d < 2 || n % d != 0
  ((List.range 512).filter isPrime).take count

/-- The greatest number below `low + 1 <<< bits` whose power is at most a bound, if that of `low`
is. -/
def integerRoot (power bound : Nat) : Nat → Nat → Nat
  | 0, low => low
  | bits + 1, low =>
    let trial := low + (1 <<< bits)
    integerRoot power bound bits (if trial.pow power ≤ bound then trial else low)

/-- The leading bits of the fractional part of a root of a number below 512. -/
def fraction (power bits n : Nat) : Nat :=
  integerRoot power (n <<< (power * bits)) (bits + 5) 0 % (1 <<< bits)

/-- What tells the members of the family apart. -/
structure Variant (width : Nat) where
  /-- The number of rounds to a block. -/
  rounds : Nat
  /-- The rotations of the first term of a round. -/
  first : Nat × Nat × Nat
  /-- The rotations of the second term of a round. -/
  second : Nat × Nat × Nat
  /-- Two rotations and a shift for the word fifteen back. -/
  near : Nat × Nat × Nat
  /-- Two rotations and a shift for the word two back. -/
  far : Nat × Nat × Nat
  /-- The constants of the rounds. -/
  constants : List (BitVec width)

/-- The rounds on words of 32 bits. -/
def narrow : Variant 32 :=
  { rounds := 64
    first := (2, 13, 22)
    second := (6, 11, 25)
    near := (7, 18, 3)
    far := (17, 19, 10)
    constants := (primes 64).map fun p => BitVec.ofNat 32 (fraction 3 32 p) }

/-- The rounds on words of 64 bits. -/
def wide : Variant 64 :=
  { rounds := 80
    first := (28, 34, 39)
    second := (14, 18, 41)
    near := (1, 8, 7)
    far := (19, 61, 6)
    constants := (primes 80).map fun p => BitVec.ofNat 64 (fraction 3 64 p) }

variable {width : Nat}

/-- Three rotations of a word, added without carry. -/
def rotations (amounts : Nat × Nat × Nat) (word : BitVec width) : BitVec width :=
  word.rotateRight amounts.1 ^^^ word.rotateRight amounts.2.1 ^^^ word.rotateRight amounts.2.2

/-- Two rotations and a shift of a word, added without carry. -/
def mixture (amounts : Nat × Nat × Nat) (word : BitVec width) : BitVec width :=
  word.rotateRight amounts.1 ^^^ word.rotateRight amounts.2.1 ^^^ (word >>> amounts.2.2)

/-- The words of a block and those made from them, the last one first. -/
def schedule (variant : Variant width) : Nat → List (BitVec width) → List (BitVec width)
  | 0, words => words
  | more + 1, words =>
    let earlier := fun back => words.getD (back - 1) 0
    let next := mixture variant.far (earlier 2) + earlier 7 + mixture variant.near (earlier 15) +
      earlier 16
    schedule variant more (next :: words)

/-- One round on the eight working words. -/
def round (variant : Variant width) (working : List (BitVec width))
    (input : BitVec width × BitVec width) : List (BitVec width) :=
  match working with
  | [a, b, c, d, e, f, g, h] =>
    let choice := (e &&& f) ^^^ (~~~e &&& g)
    let majority := (a &&& b) ^^^ (a &&& c) ^^^ (b &&& c)
    let one := h + rotations variant.second e + choice + input.1 + input.2
    let two := rotations variant.first a + majority
    [one + two, a, b, c, d + one, e, f, g]
  | other => other

/-- The state after a block. -/
def compress (variant : Variant width) (state block : List (BitVec width)) : List (BitVec width) :=
  let words := (schedule variant (variant.rounds - 16) block.reverse).reverse
  let working := (variant.constants.zip words).foldl (round variant) state
  List.zipWith (· + ·) state working

/-- The word that octets write, the highest first. -/
def word (width : Nat) (octets : Bytes) : BitVec width :=
  BitVec.ofNat width (octets.foldl (fun n b => n * 256 + b.toNat) 0)

/-- A number as octets, the highest first. -/
def octetsOf (count n : Nat) : Bytes :=
  (List.range count).map fun i => (n >>> (8 * (count - 1 - i))).toUInt8

/-- A sequence cut into parts of a positive length; what is left over is dropped. -/
def parts {α : Type} (length : Nat) : Nat → List α → List (List α)
  | 0, _ => []
  | count + 1, items => items.take length :: parts length count (items.drop length)

/-- The octets filled up to whole blocks: a one bit, zeros, and the length in bits. -/
def padded (width : Nat) (octets : Bytes) : Bytes :=
  let block := 2 * width
  let lengthOctets := width / 4
  let used := octets.length + 1 + lengthOctets
  let zeros := (block - used % block) % block
  octets ++ [0x80] ++ List.replicate zeros 0 ++ octetsOf lengthOctets (8 * octets.length)

/-- The state after all blocks, as octets. -/
def digest (variant : Variant width) (initial : List (BitVec width)) (octets : Bytes) : Bytes :=
  let filled := padded width octets
  let wordOctets := width / 8
  let words := (parts wordOctets (filled.length / wordOctets) filled).map (word width)
  let state := (parts 16 (words.length / 16) words).foldl (compress variant) initial
  state.flatMap fun word => octetsOf wordOctets word.toNat

end Reshape.Sha2

namespace Reshape

/-- A hash of the second family, by the number of its bits. -/
inductive HashAlgorithm where
  | sha224
  | sha256
  | sha384
  | sha512
  deriving DecidableEq, Repr

namespace HashAlgorithm

/-- The algorithm of a name. -/
def named? (name : String) : Option HashAlgorithm :=
  match name with
  | "sha224" => some .sha224
  | "sha256" => some .sha256
  | "sha384" => some .sha384
  | "sha512" => some .sha512
  | _ => none

/-- The hash of octets. The shorter hashes start from the ninth to the sixteenth prime and are cut;
the shortest starts from the second half of 64 bits. -/
def digest (algorithm : HashAlgorithm) (octets : Bytes) : Bytes :=
  let start := Sha2.primes 8
  let later := (Sha2.primes 16).drop 8
  match algorithm with
  | .sha224 =>
    let initial := later.map fun p => BitVec.ofNat 32 (Sha2.fraction 2 64 p)
    (Sha2.digest Sha2.narrow initial octets).take 28
  | .sha256 =>
    let initial := start.map fun p => BitVec.ofNat 32 (Sha2.fraction 2 32 p)
    Sha2.digest Sha2.narrow initial octets
  | .sha384 =>
    let initial := later.map fun p => BitVec.ofNat 64 (Sha2.fraction 2 64 p)
    (Sha2.digest Sha2.wide initial octets).take 48
  | .sha512 =>
    let initial := start.map fun p => BitVec.ofNat 64 (Sha2.fraction 2 64 p)
    Sha2.digest Sha2.wide initial octets

end HashAlgorithm

end Reshape
