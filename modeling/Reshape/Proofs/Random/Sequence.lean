import Mathlib.Logic.Function.Iterate
import Reshape.Proofs.Eval.Stateful
import Reshape.Proofs.Value.Exact
import Reshape.Random

/-!
Draws from a generator, and the sequences of random integers that they make. A word is drawn again
until one gives a number; the number is below the count whichever word it is of, and so what is drawn
from an interval is in it. The calls of one generator give what is drawn from the first value that
its seed gives, one integer a call, whatever the seed would give to later calls.
-/

namespace Reshape

namespace Generator

/-- The word of a state gives one of as many numbers, and no other word is drawn in its place. -/
def Accepts (count : Nat) (state : Generator) : Prop :=
  state.output.toNat * count % 0x10000000000000000 ≤ zone count

/-- A state gives a number below a count, and the state after it, however often a word is drawn
again. -/
inductive Draws (count : Nat) : Generator → Nat → Generator → Prop
  | now {state : Generator} (accepted : state.Accepts count) :
    Draws count state ((state.output.toNat * count) >>> 64) state.next
  | later {state after : Generator} {n : Nat} (rejected : ¬state.Accepts count)
    (drawn : Draws count state.next n after) : Draws count state n after

variable {count : Nat} {state after : Generator} {n draws : Nat}

/-- The high half of the product of a word and a count is below the count. -/
theorem high_lt (positive : 0 < count) (word : UInt64) : (word.toNat * count) >>> 64 < count := by
  rw [Nat.shiftRight_eq_div_pow, Nat.div_lt_iff_lt_mul (Nat.two_pow_pos 64), Nat.mul_comm]
  exact Nat.mul_lt_mul_of_pos_left word.toNat_lt positive

/-- What a state gives is below the count. -/
theorem Draws.lt (drawn : Draws count state n after) (positive : 0 < count) : n < count := by
  induction drawn with
  | now accepted => exact high_lt positive _
  | later rejected drawn ih => exact ih

/-- A state gives one number, and leaves one state. -/
theorem Draws.unique {other : Nat} {left : Generator} (drawn : Draws count state n after)
    (again : Draws count state other left) : n = other ∧ after = left := by
  -- A word is accepted or not, so both draws end with the same one.
  induction drawn with
  | now accepted =>
    cases again with
    | now => exact ⟨rfl, rfl⟩
    | later rejected => exact absurd accepted rejected
  | later rejected drawn ih =>
    cases again with
    | now accepted => exact absurd accepted rejected
    | later _ again => exact ih again

/-- A draw gives a number below the count, also if no word is left to draw. -/
theorem below_lt (positive : 0 < count) (draws : Nat) (state : Generator) :
    (below count draws state).1 < count := by
  fun_induction below count draws state with
  | case1 state => exact high_lt positive _
  | case2 draws state product accepted => exact high_lt positive _
  | case3 draws state product rejected ih => exact ih

/-- A draw is what the state gives, unless every word that is left to draw is drawn again. -/
theorem draws_below (count draws : Nat) (state : Generator) :
    Draws count state (below count draws state).1 (below count draws state).2 ∨
      ∀ k < draws, ¬(next^[k] state).Accepts count := by
  -- Each step draws one word, so that the words left to it start one further on.
  fun_induction below count draws state with
  | case1 state => exact .inr fun k small => absurd small (Nat.not_lt_zero k)
  | case2 draws state product accepted => exact .inl (.now accepted)
  | case3 draws state product rejected ih =>
    refine ih.imp (.later rejected) fun others k small => ?_
    cases k with
    | zero => exact rejected
    | succ k => exact others k (Nat.lt_of_succ_lt_succ small)

variable {least greatest : Int}

/-- As many integers as there are from the least to the greatest. -/
theorem span_pos (ordered : least ≤ greatest) : 0 < (greatest - least + 1).toNat := by
  omega

/-- What is drawn from an interval is in it. -/
theorem between_mem (ordered : least ≤ greatest) (state : Generator) :
    least ≤ (state.between least greatest).1 ∧ (state.between least greatest).1 ≤ greatest := by
  have small := below_lt (span_pos ordered) drawLimit state
  simp only [between]
  omega

/-- What is drawn from an interval is what the state gives, if one of the first words gives it. -/
theorem between_of_draws (drawn : Draws (greatest - least + 1).toNat state n after)
    (soon : ∃ k < drawLimit, (next^[k] state).Accepts (greatest - least + 1).toNat) :
    state.between least greatest = (least + n, after) := by
  rcases draws_below (greatest - least + 1).toNat drawLimit state with same | late
  · obtain ⟨value, left⟩ := drawn.unique same
    simp only [between, value, left]
  · obtain ⟨k, small, accepted⟩ := soon
    exact absurd accepted (late k small)

end Generator

/-- The values that calls have given, one after the other. -/
def Turn.values (turns : List Turn) : List Value := turns.filterMap (·.result.toOption)

namespace Value

variable {value other : Value}

/-- Values of one exact value make the same seed, if both of them make one. -/
theorem seed?_unique {n : ℚ} (known : value.fraction? = some n) (same : other.fraction? = some n)
    {seed seed' : UInt64} (made : value.seed? = some seed) (made' : other.seed? = some seed') :
    seed = seed' := by
  have signed : value.toInt64? = other.toInt64? := by
    refine Option.ext fun m => ?_
    rw [toInt64?_eq_some, toInt64?_eq_some, known, same]
  unfold seed? at made made'
  rw [signed] at made
  -- Only what is no signed integer is tried as an unsigned one.
  cases tried : other.toInt64? with
  | some m =>
    rw [tried] at made made'
    exact Option.some.inj (made.symm.trans made')
  | none =>
    rw [tried] at made made'
    have whole := (toUInt64?_eq_some.1 made).1
    have whole' := (toUInt64?_eq_some.1 made').1
    have equal : (seed.toNat : ℚ) = seed'.toNat :=
      Option.some.inj ((known.symm.trans whole).symm.trans (same.symm.trans whole'))
    exact UInt64.toNat_inj.1 (by exact_mod_cast equal)

end Value

namespace Generator

/-- The first integers that are drawn from an interval. -/
def drawn (least greatest : Int64) : Nat → Generator → List Value
  | 0, _ => []
  | count + 1, state =>
    .int (Int64.ofInt (state.between least.toInt greatest.toInt).1) ::
      drawn least greatest count (state.between least.toInt greatest.toInt).2

variable {least greatest : Int64} {state : Generator}

/-- More integers begin with fewer ones. -/
theorem drawn_prefix {fewer more : Nat} (small : fewer ≤ more) (state : Generator) :
    drawn least greatest fewer state <+: drawn least greatest more state := by
  induction fewer generalizing more state with
  | zero => exact List.nil_prefix
  | succ fewer ih =>
    obtain ⟨more, rfl⟩ := Nat.exists_eq_add_of_le' (Nat.zero_lt_of_lt small)
    exact List.cons_prefix_cons.2 ⟨rfl, ih (Nat.le_of_succ_le_succ small) _⟩

/-- What is drawn from an interval of integers of 64 bits is one of them, and in the interval. -/
theorem toInt_between (ordered : least.toInt ≤ greatest.toInt) (state : Generator) :
    let n := Int64.ofInt (state.between least.toInt greatest.toInt).1
    least.toInt ≤ n.toInt ∧ n.toInt ≤ greatest.toInt := by
  -- The integer is within 64 bits, as the bounds are, and so it is kept as it is.
  obtain ⟨above, below⟩ := between_mem ordered state
  have bottom := least.le_toInt
  have top := greatest.toInt_lt
  have exact : (Int64.ofInt (state.between least.toInt greatest.toInt).1).toInt =
      (state.between least.toInt greatest.toInt).1 :=
    Int64.toInt_ofInt_of_le (by omega) (by omega)
  exact ⟨above.trans_eq exact.symm, exact.trans_le below⟩

end Generator

namespace RandomInt

/-- The bounds are none below zero, not the greatest integer, and those of an interval. -/
structure Valid (random : RandomInt) : Prop where
  unsigned : 0 ≤ random.least.toInt
  ordered : random.least.toInt < random.greatest.toInt
  unreserved : random.greatest.toInt < 2 ^ 63 - 1

/-- What the seed gives on an occasion, if the generator has kept nothing. -/
def seedOn? (random : RandomInt) (site : Site) (occasion : Occasion) : Option Value :=
  (((random.seedAt site).read occasion.context).outcome
    (occasion.memory.withCell site none)).1.toOption

/-- The first value that the seed gives. -/
def firstSeed? (random : RandomInt) (site : Site) (occasions : List Occasion) : Option Value :=
  occasions.findSome? (random.seedOn? site)

/-- The occasions from the first one on which the seed gives a value. -/
def seeded (random : RandomInt) (site : Site) (occasions : List Occasion) : List Occasion :=
  occasions.dropWhile fun occasion => (random.seedOn? site occasion).isNone

/-- As many integers as there are occasions from the first one on which the seed gives a value, drawn
from this value; none if it is no integer of 64 bits. -/
def sequence (random : RandomInt) (site : Site) (occasions : List Occasion) : List Value :=
  match (random.firstSeed? site occasions).bind Value.seed? with
  | none => []
  | some seed =>
    (Generator.seeded seed).drawn random.least random.greatest (random.seeded site occasions).length

variable {random other : RandomInt} {site place : Site}

/-- Bounds are valid just if they are accepted. -/
theorem randomBounds_eq_ok :
    randomBounds random.least random.greatest = .ok () ↔ random.Valid := by
  have top := random.greatest.toInt_lt
  -- The greatest integer of all is reserved, and named by its value.
  have reserved : random.greatest = Function.greatest ↔ random.greatest.toInt = 2 ^ 63 - 1 := by
    rw [← Int64.toInt_inj]
    rfl
  unfold randomBounds
  split
  next negative => exact iff_of_false (by rintro ⟨⟩) fun valid => by have := valid.unsigned; omega
  split
  next greatest =>
    refine iff_of_false (by rintro ⟨⟩) fun valid => ?_
    have := valid.unreserved
    have := reserved.1 greatest
    omega
  split
  next empty => exact iff_of_false (by rintro ⟨⟩) fun valid => by have := valid.ordered; omega
  next unsigned free ordered =>
    rw [reserved] at free
    exact iff_of_true rfl ⟨by omega, by omega, by omega⟩

/-- A call that finds its generator draws from it. -/
theorem turn_of_generator (valid : random.Valid) (state : Generator) (occasion : Occasion) :
    let turn := (random.query site).turn site (some (.generator state)) occasion
    let drawn := state.between random.least.toInt random.greatest.toInt
    turn.result = .ok (.int (Int64.ofInt drawn.1)) ∧ turn.left = some (.generator drawn.2) := by
  -- The cell at the site answers at once, and the memory holds it before the seed is asked for.
  simp only [Query.turn, random.outcome_query, randomBounds_eq_ok.2 valid]
  generalize found : occasion.memory.withCell site (some (.generator state)) = memory
  have ended : (Eval.generator site (random.seedAt site) occasion.context).outcome memory =
      (.ok state, memory) := by
    rw [Eval.outcome_generator, ← found, Memory.cell?_withCell]
    rfl
  rw [ended]
  exact ⟨rfl, Memory.cell?_keep_self memory site _⟩

/-- A call that finds nothing, and gets nothing from the seed, fails and leaves nothing. -/
theorem turn_of_seedOn?_none (valid : random.Valid) {occasion : Occasion}
    (missing : random.seedOn? site occasion = none) :
    let turn := (random.query site).turn site none occasion
    turn.result.toOption = none ∧ turn.left = none := by
  -- Asking for the seed leaves the cell of the site alone, whatever the seed does elsewhere.
  have own : (occasion.memory.withCell site none).cell? site = none := Memory.cell?_withCell _ _ _
  simp only [seedOn?, Query.turn, random.outcome_query, randomBounds_eq_ok.2 valid] at missing ⊢
  generalize occasion.memory.withCell site none = memory at missing own ⊢
  have obeys : Query.Obeys (.keeping fun left => left.cell? site = none) (random.seedAt site) :=
    obeys_seedAt _
  have kept := (obeys.read occasion.context).kept own
  rw [Eval.outcome_generator, own, Eval.outcome_bind]
  generalize ((random.seedAt site).read occasion.context).outcome memory = outcome at missing kept ⊢
  obtain ⟨error | value, after⟩ := outcome
  · exact ⟨rfl, kept⟩
  · cases missing

/-- A call that finds nothing, and gets a value from the seed, draws from the generator that this
makes, or keeps the value for good. -/
theorem turn_of_seedOn?_some (valid : random.Valid) {occasion : Occasion} {value : Value}
    (given : random.seedOn? site occasion = some value) :
    let turn := (random.query site).turn site none occasion
    match value.seed? with
    | none => turn.result.toOption = none ∧ turn.left = some (.seed value)
    | some seed =>
      let drawn := (Generator.seeded seed).between random.least.toInt random.greatest.toInt
      turn.result.toOption = some (.int (Int64.ofInt drawn.1)) ∧
        turn.left = some (.generator drawn.2) := by
  have own : (occasion.memory.withCell site none).cell? site = none := Memory.cell?_withCell _ _ _
  simp only [seedOn?, Query.turn, random.outcome_query, randomBounds_eq_ok.2 valid] at given ⊢
  generalize occasion.memory.withCell site none = memory at given own ⊢
  rw [Eval.outcome_generator, own, Eval.outcome_bind]
  generalize ((random.seedAt site).read occasion.context).outcome memory = outcome at given ⊢
  obtain ⟨error | read, after⟩ := outcome
  · cases given
  · obtain rfl : read = value := Option.some.inj given
    -- The value is kept before anything is made of it.
    have kept : (after.keep site (.seed read)).cell? site = some (.seed read) :=
      Memory.cell?_keep_self after site _
    have ended : (do Eval.keep site (.seed read); Eval.sown read : Eval Generator).outcome after =
        (Eval.sown read).outcome (after.keep site (.seed read)) := rfl
    simp only [Eval.sown]
    cases made : read.seed? with
    | none => exact ⟨rfl, kept⟩
    | some seed => exact ⟨rfl, Memory.cell?_keep_self _ site _⟩

/-- Calls that find a generator draw from it, each from what the one before it has left. -/
theorem values_of_generator (valid : random.Valid) (state : Generator)
    (occasions : List Occasion) :
    Turn.values ((random.query site).history site (some (.generator state)) occasions) =
      state.drawn random.least random.greatest occasions.length := by
  induction occasions generalizing state with
  | nil => rfl
  | cons occasion later ih =>
    -- The generator is in its cell, so that each turn draws from where the last one left it.
    obtain ⟨given, left⟩ := @turn_of_generator random site valid state occasion
    rw [Query.history, left, Turn.values, List.filterMap_cons, given]
    exact congrArg (List.cons _) (ih _)

/-- Calls that find a value of no use as a seed give nothing. -/
theorem values_of_useless {value : Value} (useless : value.seed? = none)
    (occasions : List Occasion) :
    Turn.values ((random.query site).history site (some (.seed value)) occasions) = [] := by
  induction occasions with
  | nil => rfl
  -- The useless seed stays in its cell, so that every turn fails.
  | cons occasion later ih =>
    obtain ⟨⟨error, failed⟩, left⟩ := random.turn_of_useless site useless occasion
    rw [Query.history, left, Turn.values, List.filterMap_cons, failed]
    exact ih

/-- The calls of a generator give its sequence. -/
theorem values_history (valid : random.Valid) (occasions : List Occasion) :
    Turn.values ((random.query site).history site none occasions) =
      random.sequence site occasions := by
  -- Up to the first value of the seed nothing is kept, and from then on the seed is not read.
  induction occasions with
  | nil => rfl
  | cons occasion later ih =>
    rw [Query.history, Turn.values, List.filterMap_cons, sequence, firstSeed?, seeded,
      List.findSome?_cons, List.dropWhile_cons]
    cases given : random.seedOn? site occasion with
    | none =>
      obtain ⟨failed, left⟩ := turn_of_seedOn?_none valid given
      rw [failed, left]
      exact ih
    | some value =>
      have settled := turn_of_seedOn?_some valid given
      cases made : value.seed? with
      | none =>
        simp only [made] at settled
        rw [settled.1, settled.2]
        simp only [Option.bind_some, made]
        exact values_of_useless made later
      | some seed =>
        simp only [made] at settled
        rw [settled.1, settled.2]
        simp only [Option.bind_some, made]
        exact congrArg (List.cons _) (values_of_generator valid _ later)

/-- What a call gives is an integer within the bounds, whatever it finds in its cell. -/
theorem result_mem (valid : random.Valid) (found : Option Cell) (occasion : Occasion)
    {value : Value} (given : ((random.query site).turn site found occasion).result = .ok value) :
    ∃ n : Int64, value = .int n ∧
      random.least.toInt ≤ n.toInt ∧ n.toInt ≤ random.greatest.toInt := by
  -- What is drawn is reduced to the bounds, wherever the generator stands.
  simp only [Query.turn, random.outcome_query, randomBounds_eq_ok.2 valid] at given
  generalize (Eval.generator site (random.seedAt site) occasion.context).outcome _ = outcome at given
  obtain ⟨error | state, after⟩ := outcome
  · cases given
  · obtain rfl := Except.ok.inj given
    exact ⟨_, rfl, Generator.toInt_between valid.ordered.le state⟩

/-- Two sequences of the same bounds are the same as far as both go, if the first values that their
seeds give have one exact value. -/
theorem sequence_comparable (least : other.least = random.least)
    (greatest : other.greatest = random.greatest) {occasions others : List Occasion}
    (same : ∀ value ∈ random.firstSeed? site occasions, ∀ value' ∈ other.firstSeed? place others,
      ∃ n : Int, value.fraction? = some (n : ℚ) ∧ value'.fraction? = some (n : ℚ)) :
    random.sequence site occasions <+: other.sequence place others ∨
      other.sequence place others <+: random.sequence site occasions := by
  unfold sequence
  -- A sequence without a seed is empty, and so a part of any other.
  cases made : (random.firstSeed? site occasions).bind Value.seed? with
  | none => exact .inl List.nil_prefix
  | some seed =>
    cases made' : (other.firstSeed? place others).bind Value.seed? with
    | none => exact .inr List.nil_prefix
    | some seed' =>
      obtain ⟨value, given, made⟩ := Option.bind_eq_some_iff.1 made
      obtain ⟨value', given', made'⟩ := Option.bind_eq_some_iff.1 made'
      obtain ⟨n, known, known'⟩ := same value given value' given'
      obtain rfl := Value.seed?_unique known known' made made'
      rw [least, greatest]
      exact (le_total _ _).imp (Generator.drawn_prefix · _) (Generator.drawn_prefix · _)

/-- Random sequences are seeded once and stay in bounds. What the compiler binds to the function is a
generator. If its bounds are valid, its calls on any occasions give what is drawn from the first
value of the seed, one integer for each call from the one that reads it; and the calls of two
generators with the same bounds, wherever they stand and whatever they are called on, give the same
integers as far as both go, if the first values that their seeds give are the same integer. All
integers that calls give are within the bounds, and so is whatever a generator in any state draws,
however often it draws a word again; a call draws just that if one of the words is among the first
ones. -/
theorem seeded_once :
    (∀ arguments slots, Function.randomInt.signature.bindSlots arguments = .ok slots →
      ∃ random : RandomInt, slots = random.slots) ∧
    (∀ (random : RandomInt) (site : Site) (occasions : List Occasion), random.Valid →
      ∀ value ∈ random.firstSeed? site occasions, ∀ seed ∈ value.seed?,
        Turn.values ((random.query site).history site none occasions) =
          (Generator.seeded seed).drawn random.least random.greatest
            (random.seeded site occasions).length) ∧
    (∀ (random other : RandomInt) (site place : Site) (occasions others : List Occasion),
      random.Valid → other.least = random.least → other.greatest = random.greatest →
      (∀ value ∈ random.firstSeed? site occasions, ∀ value' ∈ other.firstSeed? place others,
        ∃ n : Int, value.fraction? = some (n : ℚ) ∧ value'.fraction? = some (n : ℚ)) →
      ∀ (k : Nat) (value value' : Value),
        (Turn.values ((random.query site).history site none occasions))[k]? = some value →
        (Turn.values ((other.query place).history place none others))[k]? = some value' →
          value = value') ∧
    (∀ (random : RandomInt) (site : Site) (found : Option Cell) (occasions : List Occasion),
      random.Valid →
      ∀ value ∈ Turn.values ((random.query site).history site found occasions),
        ∃ n : Int64, value = .int n ∧
          random.least.toInt ≤ n.toInt ∧ n.toInt ≤ random.greatest.toInt) ∧
    ∀ least greatest : Int, 0 ≤ least → least < greatest → greatest < 2 ^ 63 - 1 →
      ∀ state : Generator,
        (least ≤ (state.between least greatest).1 ∧ (state.between least greatest).1 ≤ greatest) ∧
        ∀ n after, state.Draws (greatest - least + 1).toNat n after →
          least + n ≤ greatest ∧
          ((∃ k < Generator.drawLimit,
              (Generator.next^[k] state).Accepts (greatest - least + 1).toNat) →
            state.between least greatest = (least + n, after)) := by
  refine ⟨fun _ _ bound => eq_slots_of_bindSlots bound, ?_, ?_, ?_, ?_⟩
  · intro random site occasions valid value given seed made
    rw [values_history valid, sequence, Option.mem_def.1 given, Option.bind_some,
      Option.mem_def.1 made]
  · intro random other site place occasions others valid least greatest same k value value' one two
    have valid' : other.Valid := ⟨least ▸ valid.unsigned, least ▸ greatest ▸ valid.ordered,
      greatest ▸ valid.unreserved⟩
    rw [values_history valid] at one
    rw [values_history valid'] at two
    -- What is at a place of the shorter sequence is there in the longer one.
    rcases sequence_comparable least greatest same with shorter | shorter
    · obtain ⟨inside, rfl⟩ := List.getElem?_eq_some_iff.1 one
      exact Option.some.inj ((List.prefix_iff_getElem?.1 shorter k inside).symm.trans two)
    · obtain ⟨inside, rfl⟩ := List.getElem?_eq_some_iff.1 two
      exact Option.some.inj (one.symm.trans (List.prefix_iff_getElem?.1 shorter k inside))
  · intro random site found occasions valid value member
    obtain ⟨turn, member, given⟩ := List.mem_filterMap.1 member
    obtain ⟨_, same⟩ := Query.mem_history (motive := fun _ => True) (fun _ _ _ => trivial) trivial
      member
    cases ended : turn.result with
    | error error =>
      rw [ended] at given
      cases given
    | ok result =>
      rw [ended] at given
      obtain rfl := Option.some.inj given
      rw [← same] at ended
      exact result_mem valid turn.found turn.occasion ended
  · intro least greatest _ ordered _ state
    refine ⟨Generator.between_mem ordered.le state, fun n after drawn =>
      ⟨?_, Generator.between_of_draws drawn⟩⟩
    have small := drawn.lt (Generator.span_pos ordered.le)
    omega

section Sample

/-- The generator of `random_int(seed: 7, max: 10)`, with the seed as an unsigned integer. -/
def ofSeven : RandomInt := ⟨.literal (.uint 7), 0, 10⟩

/-- No message, and two messages with different seeds. -/
def twoSeeds : List Occasion :=
  [⟨.bare ⟨[], ⟨0, 0⟩⟩, .fresh (.seeded 0)⟩, .ofValue (.object [("seed", .int 7)]),
    .ofValue (.object [("seed", .int 8)])]

/-- A generator whose seed is a field is seeded with the first one there is, and gives the integers
of a generator with that seed. -/
theorem seeded_once_of_fields :
    (Function.randomInt.signature.bindSlots fieldArguments = .ok ofFields.slots ∧
      ∃ random : RandomInt, ofFields.slots = random.slots) ∧
    (ofFields.Valid ∧ ofSeven.least = ofFields.least ∧ ofSeven.greatest = ofFields.greatest) ∧
    (ofFields.firstSeed? [] twoSeeds = some (.int 7) ∧ (Value.int 7).seed? = some 7 ∧
      Turn.values ((ofFields.query []).history [] none twoSeeds) =
        (Generator.seeded 7).drawn 0 10 2) ∧
    (ofSeven.firstSeed? [0] twoSeeds = some (.uint 7) ∧
      ∀ (k : Nat) (value value' : Value),
        (Turn.values ((ofFields.query []).history [] none twoSeeds))[k]? = some value →
        (Turn.values ((ofSeven.query [0]).history [0] none twoSeeds))[k]? = some value' →
          value = value') ∧
    (Turn.values ((ofFields.query []).history [] none twoSeeds) = [.int 3, .int 9] ∧
      ∃ n : Int64, Value.int 9 = .int n ∧ 0 ≤ n.toInt ∧ n.toInt ≤ 10) ∧
    ∀ state : Generator,
      0 ≤ (state.between 0 (2 ^ 63 - 2)).1 ∧ (state.between 0 (2 ^ 63 - 2)).1 ≤ 2 ^ 63 - 2 := by
  -- Each part is a law of sequences for these two generators, once the seeds are known.
  obtain ⟨bound, once, agree, within, drawn⟩ := seeded_once
  have binds : Function.randomInt.signature.bindSlots fieldArguments = .ok ofFields.slots := rfl
  have valid : ofFields.Valid := ⟨by decide, by decide, by decide⟩
  have first : ofFields.firstSeed? [] twoSeeds = some (.int 7) := rfl
  have seven : ofSeven.firstSeed? [0] twoSeeds = some (.uint 7) := rfl
  have values : Turn.values ((ofFields.query []).history [] none twoSeeds) = [.int 3, .int 9] := by
    rw [once ofFields [] twoSeeds valid _ first 7 rfl]
    rfl
  refine ⟨⟨binds, bound _ _ binds⟩, ⟨valid, rfl, rfl⟩,
    ⟨first, rfl, once ofFields [] twoSeeds valid _ first 7 rfl⟩, ⟨seven, ?_⟩, ⟨values, ?_⟩,
    fun state => (drawn 0 (2 ^ 63 - 2) (by decide) (by decide) (by decide) state).1⟩
  · refine agree ofFields ofSeven [] [0] twoSeeds twoSeeds valid rfl rfl ?_
    intro value given value' given'
    obtain rfl := Option.some.inj (first.symm.trans given)
    obtain rfl := Option.some.inj (seven.symm.trans given')
    exact ⟨7, rfl, rfl⟩
  · exact within ofFields [] none twoSeeds valid (.int 9) (by simp [values])

end Sample

end RandomInt

end Reshape
