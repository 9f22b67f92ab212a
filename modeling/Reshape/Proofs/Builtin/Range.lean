import Mathlib.Data.Rat.Floor
import Reshape.Builtin.Numeric
import Reshape.Proofs.Value.Arithmetic

/-!
Ranges are exact. The length that is computed before a range is built is the quotient of the way to
the stop and the step, rounded up, and this is how many integers the steps lead to before the stop.
Taking one step after the other gives just these integers, also where the last one is so near to the
end of the integers of 64 bits that no step follows it.
-/

namespace Reshape.Range

/-- An integer stands before a stop in the direction of the steps. -/
def Before (stop step n : Int) : Prop :=
  (0 < step ∧ n < stop) ∨ (step < 0 ∧ stop < n)

/-- The steps lead away from the stop. -/
def LeadsAway (start stop step : Int) : Prop :=
  (0 < step ∧ stop < start) ∨ (step < 0 ∧ start < stop)

instance (start stop step : Int) : Decidable (LeadsAway start stop step) :=
  inferInstanceAs (Decidable (_ ∨ _))

/-- The exact quotient of the way to the stop and the step, rounded up. -/
def size (start stop step : Int) : Int :=
  ⌈((stop - start : Int) : ℚ) / step⌉

/-- The first integers from a start in equal steps. -/
def progression (start step : Int) (length : Nat) : List Int :=
  (List.range length).map fun (k : Nat) => start + k * step

section Length

variable {start stop step : Int}

/-- So many steps are fewer than the size just if they end before the stop. -/
theorem lt_size_iff (nonzero : step ≠ 0) (k : Int) :
    k < size start stop step ↔ Before stop step (start + k * step) := by
  -- The way of so many steps is compared with the way to the stop, in the direction of the step.
  rw [size, Int.lt_ceil]
  rcases Int.lt_or_gt_of_ne nonzero with down | up
  · have down' : (step : ℚ) < 0 := by exact_mod_cast down
    rw [lt_div_iff_of_neg down', ← Int.cast_mul, Int.cast_lt]
    simp only [Before]
    omega
  · have up' : (0 : ℚ) < step := by exact_mod_cast up
    rw [lt_div_iff₀ up', ← Int.cast_mul, Int.cast_lt]
    simp only [Before]
    omega

/-- Upwards the computed length is the number of steps that end before the stop. -/
theorem lt_count_iff (up : 0 < step) (ordered : start ≤ stop) (k : Int) :
    k < count start stop step ↔ start + k * step < stop := by
  have sign : step.sign = 1 := Int.sign_eq_one_of_pos up
  rw [count, sign, Int.tdiv_eq_ediv_of_nonneg (by omega), ← Int.add_one_le_iff,
    Int.le_ediv_iff_mul_le up, Int.add_mul, Int.one_mul]
  omega

/-- The computed length is the same in the other direction. -/
theorem count_neg (start stop step : Int) : count (-start) (-stop) (-step) = count start stop step := by
  have turned : -stop - -start + -step - (-step).sign = -(stop - start + step - step.sign) := by
    rw [Int.sign_neg]
    omega
  rw [count, turned, Int.neg_tdiv, Int.tdiv_neg, Int.neg_neg, count]

/-- The computed length is the exact quotient, rounded up. -/
theorem count_eq_size (nonzero : step ≠ 0) (toward : ¬LeadsAway start stop step) :
    count start stop step = size start stop step := by
  -- Both are greater than the same numbers of steps.
  refine eq_of_forall_lt_iff fun k => ?_
  rw [lt_size_iff nonzero]
  simp only [LeadsAway, Before] at toward ⊢
  rcases Int.lt_or_gt_of_ne nonzero with down | up
  · have turned : k < count (-start) (-stop) (-step) ↔ -start + k * -step < -stop :=
      lt_count_iff (Int.neg_pos_of_neg down) (by omega) k
    rw [count_neg, Int.mul_neg] at turned
    omega
  · rw [lt_count_iff up (by omega)]
    omega

/-- There are no steps to a stop that is the start or lies behind it, and else some. -/
theorem size_nonneg (nonzero : step ≠ 0) (toward : ¬LeadsAway start stop step) :
    0 ≤ size start stop step := by
  have first : -1 < size start stop step ↔ Before stop step (start + -1 * step) :=
    lt_size_iff nonzero (-1)
  simp only [Before, LeadsAway] at first toward
  omega

end Length

section Words

/-- An integer, if it is a signed one of 128 bits. -/
def int128? (n : Int) : Option Int :=
  if -2 ^ 127 ≤ n ∧ n < 2 ^ 127 then some n else none

/-- The length of a range, if all that is computed on the way to it are signed integers of 128
bits. -/
def count128? (start stop step : Int) : Option Int := do
  let way ← int128? (stop - start)
  let past ← int128? (way + step)
  let whole ← int128? (past - step.sign)
  int128? (whole.tdiv step)

/-- An integer of fewer bits is a signed one of 128 bits. -/
theorem int128?_of_natAbs_le {n : Int} (small : n.natAbs ≤ 2 ^ 66) : int128? n = some n :=
  if_pos (by omega)

/-- No step of the computation leads beyond 128 bits. -/
theorem count128?_eq (start stop step : Int64) :
    count128? start.toInt stop.toInt step.toInt =
      some (count start.toInt stop.toInt step.toInt) := by
  have least := start.le_toInt
  have greatest := start.toInt_lt
  have least' := stop.le_toInt
  have greatest' := stop.toInt_lt
  have least'' := step.le_toInt
  have greatest'' := step.toInt_lt
  have sign : step.toInt.sign.natAbs ≤ 1 := by
    rcases Int.sign_trichotomy step.toInt with sign | sign | sign <;> rw [sign] <;> decide
  -- A quotient is no greater than what is divided.
  have quotient := Int.natAbs_tdiv_le_natAbs
    (stop.toInt - start.toInt + step.toInt - step.toInt.sign) step.toInt
  rw [count128?, Option.bind_eq_bind, int128?_of_natAbs_le (by omega), Option.bind_some,
    int128?_of_natAbs_le (by omega), Option.bind_some, int128?_of_natAbs_le (by omega),
    Option.bind_some, int128?_of_natAbs_le (by omega), count]

end Words

section Walk

variable {stop step current next : Int64} {taken : List Int64}

/-- The program tells whether an integer stands before the stop. -/
theorem isBefore_iff :
    isBefore stop step current = true ↔ Before stop.toInt step.toInt current.toInt := by
  simp only [isBefore, Before, Bool.or_eq_true, Bool.and_eq_true, decide_eq_true_eq,
    Int64.lt_iff_toInt_lt, Int64.toInt_zero]

/-- The walk ends where the stop is reached. -/
theorem walk_stop (ended : ¬Before stop.toInt step.toInt current.toInt) :
    walk stop step taken current = taken.reverse := by
  rw [walk, dif_neg (mt isBefore_iff.1 ended)]

/-- The walk ends where the next step leads beyond 64 bits. -/
theorem walk_last (before : Before stop.toInt step.toInt current.toInt)
    (beyond : int64? (current.toInt + step.toInt) = none) :
    walk stop step taken current = (current :: taken).reverse := by
  rw [walk, dif_pos (isBefore_iff.2 before)]
  split <;> simp_all

/-- A step of the walk takes the current integer. -/
theorem walk_step (before : Before stop.toInt step.toInt current.toInt)
    (found : int64? (current.toInt + step.toInt) = some next) :
    walk stop step taken current = walk stop step (current :: taken) next := by
  rw [walk, dif_pos (isBefore_iff.2 before)]
  split <;> simp_all

/-- A progression goes on from its second integer. -/
theorem progression_succ (start step : Int) (length : Nat) :
    progression start step (length + 1) = start :: progression (start + step) step length := by
  -- What is behind the start is a progression from one step further on.
  rw [progression, List.range_succ_eq_map, List.map_cons, List.map_map, progression]
  congr 1
  · simp
  · refine List.map_congr_left fun k _ => ?_
    rw [Function.comp_apply, Nat.cast_succ, Int.add_mul, Int.one_mul]
    omega

/-- The walk takes as many integers as there are before the stop, each a step after the one before. -/
theorem walk_eq {length : Nat}
    (left : ∀ k : Nat, k < length ↔ Before stop.toInt step.toInt (current.toInt + k * step.toInt)) :
    (walk stop step taken current).map Int64.toInt =
      taken.reverse.map Int64.toInt ++ progression current.toInt step.toInt length := by
  -- The induction is on the number of integers that are left, which each step lowers by one.
  induction length generalizing taken current with
  | zero =>
    have ended : ¬Before stop.toInt step.toInt current.toInt := by simpa using left 0
    rw [walk_stop ended]
    simp [progression]
  | succ length ih =>
    have before : Before stop.toInt step.toInt current.toInt := by simpa using left 0
    have second := left 1
    rw [Nat.cast_one, Int.one_mul] at second
    rw [progression_succ]
    cases found : int64? (current.toInt + step.toInt) with
    | none =>
      -- What is before the stop has 64 bits, so no integer is left behind this one.
      have beyond : ¬IsInt64 (current.toInt + step.toInt) := by
        rintro ⟨next, same⟩
        rw [int64?_eq_some.2 same] at found
        cases found
      have none : length = 0 := by
        have least := stop.le_toInt
        have greatest := stop.toInt_lt
        have least' := current.le_toInt
        have greatest' := current.toInt_lt
        simp only [isInt64_iff, Before] at beyond second before
        omega
      rw [walk_last before found, none]
      simp [progression]
    | some next =>
      have same : next.toInt = current.toInt + step.toInt := int64?_eq_some.1 found
      have onward (k : Nat) :
          k < length ↔ Before stop.toInt step.toInt (next.toInt + k * step.toInt) := by
        have later := left (k + 1)
        rw [Nat.cast_succ, Int.add_mul, Int.one_mul] at later
        rw [same, Int.add_assoc, Int.add_comm step.toInt, ← later]
        omega
      rw [walk_step before found, ih onward, same]
      simp

end Walk

section Build

variable {start stop step : Int64}

/-- A range is not to be built: the step is zero, leads away from the stop, or leads to more than a
million integers before the stop. -/
def Refused (start stop step : Int64) : Prop :=
  step = 0 ∨ LeadsAway start.toInt stop.toInt step.toInt ∨
    1000000 < size start.toInt stop.toInt step.toInt

/-- A step is zero as a word just if it is as an integer. -/
theorem toInt_ne_zero (nonzero : step ≠ 0) : step.toInt ≠ 0 := by
  rwa [Ne, ← Int64.toInt_zero, Int64.toInt_inj]

/-- The steps lead away from the stop just if the program says so. -/
theorem leadsAway_iff : LeadsAway start.toInt stop.toInt step.toInt ↔
    (0 < step ∧ stop < start) ∨ (step < 0 ∧ start < stop) := by
  simp only [LeadsAway, Int64.lt_iff_toInt_lt, Int64.toInt_zero]

/-- A range that is to be built is what the walk takes. -/
theorem build_of_not_refused (allowed : ¬Refused start stop step) :
    build start stop step = .ok (.array ((walk stop step [] start).map .int)) := by
  simp only [Refused, not_or] at allowed
  obtain ⟨nonzero, toward, short⟩ := allowed
  rw [← count_eq_size (toInt_ne_zero nonzero) toward] at short
  rw [build, if_neg nonzero, if_neg (mt leadsAway_iff.2 toward)]
  exact if_neg short

/-- A range that is not to be built is an error. -/
theorem exists_error_of_refused (refused : Refused start stop step) :
    ∃ error, build start stop step = .error error := by
  -- The checks are made in order, and the length is computed only behind the others.
  by_cases zero : step = 0
  · exact ⟨_, if_pos zero⟩
  by_cases away : LeadsAway start.toInt stop.toInt step.toInt
  · exact ⟨_, (if_neg zero).trans (if_pos (leadsAway_iff.1 away))⟩
  have long := (refused.resolve_left zero).resolve_left away
  rw [← count_eq_size (toInt_ne_zero zero) away] at long
  exact ⟨_, ((if_neg zero).trans (if_neg (mt leadsAway_iff.2 away))).trans (if_pos long)⟩

/-- The walk from the start takes the integers of the progression that are before the stop. -/
theorem walk_start (allowed : ¬Refused start stop step) :
    (walk stop step [] start).map Int64.toInt = progression start.toInt step.toInt
      (size start.toInt stop.toInt step.toInt).toNat := by
  simp only [Refused, not_or] at allowed
  obtain ⟨nonzero, toward, -⟩ := allowed
  have positive := size_nonneg (toInt_ne_zero nonzero) toward
  -- What is before the stop are the first items of the progression, as many as its size says.
  have left (k : Nat) : k < (size start.toInt stop.toInt step.toInt).toNat ↔
      Before stop.toInt step.toInt (start.toInt + k * step.toInt) := by
    rw [← lt_size_iff (toInt_ne_zero nonzero)]
    omega
  exact walk_eq left

end Build

/-- A range is refused just if its step is zero, leads away from the stop, or leads to more than a
million integers before the stop. Otherwise it has exactly these integers: as many as the quotient
of the way and the step rounded up, each a step after the one before, and all of them before the
stop. What is computed on the way to the length has at most 128 bits. -/
theorem build_exact (start stop step : Int64) :
    ((∃ error, build start stop step = .error error) ↔ Refused start stop step) ∧
    (¬Refused start stop step → ∃ items : List Int64,
      build start stop step = .ok (.array (items.map .int)) ∧
      (items.length : Int) = size start.toInt stop.toInt step.toInt ∧
      items.map Int64.toInt = progression start.toInt step.toInt items.length ∧
      ∀ item ∈ items, Before stop.toInt step.toInt item.toInt) ∧
    count128? start.toInt stop.toInt step.toInt =
      some (count start.toInt stop.toInt step.toInt) := by
  refine ⟨⟨?_, exists_error_of_refused⟩, fun allowed => ?_, count128?_eq start stop step⟩
  · rintro ⟨error, given⟩
    by_contra allowed
    rw [build_of_not_refused allowed] at given
    cases given
  · have taken := walk_start allowed
    have toward := allowed
    simp only [Refused, not_or] at toward
    have nonzero := toInt_ne_zero toward.1
    have positive := size_nonneg nonzero toward.2.1
    have length : ((walk stop step [] start).length : Int) =
        size start.toInt stop.toInt step.toInt := by
      have lengths := congrArg List.length taken
      rw [List.length_map, progression, List.length_map, List.length_range] at lengths
      omega
    refine ⟨_, build_of_not_refused allowed, length, ?_, fun item member => ?_⟩
    · rw [taken, ← length, Int.toNat_natCast]
    · -- An integer of the progression is fewer steps away than the stop.
      have among : item.toInt ∈ (walk stop step [] start).map Int64.toInt :=
        List.mem_map_of_mem member
      rw [taken, progression, List.mem_map] at among
      obtain ⟨k, within, same⟩ := among
      rw [← same, ← lt_size_iff nonzero]
      have := List.mem_range.1 within
      omega

/-- Two steps lead down over all integers of 64 bits, and no third one follows the last of them. -/
theorem build_exact_whole :
    ¬Refused 9223372036854775807 (-9223372036854775808) (-9223372036854775808) ∧
    ∃ items : List Int64,
      build 9223372036854775807 (-9223372036854775808) (-9223372036854775808) =
        .ok (.array (items.map .int)) ∧ items.map Int64.toInt = [9223372036854775807, -1] := by
  -- The count and what is refused are decided by the numbers, without a walk.
  have length : size 9223372036854775807 (-9223372036854775808) (-9223372036854775808) = 2 := by
    rw [← count_eq_size (by decide) (by simp [LeadsAway])]
    decide
  have allowed : ¬Refused 9223372036854775807 (-9223372036854775808) (-9223372036854775808) := by
    rintro (zero | away | long)
    · cases zero
    · exact absurd away (by decide)
    · exact absurd (length ▸ long) (by decide)
  obtain ⟨items, built, long, taken, -⟩ := (build_exact _ _ _).2.1 allowed
  have two : items.length = 2 := by exact_mod_cast long.trans length
  exact ⟨allowed, items, built, by rw [taken, two]; rfl⟩

end Reshape.Range
