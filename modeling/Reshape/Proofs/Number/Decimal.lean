import Mathlib.Tactic.LinearCombination
import Reshape.Number.Decimal
import Reshape.Proofs.Number.Binary64

/-!
Decimals and binary floating-point numbers: a decimal that lies in the interval of a number is read
as the number, and the shortest decimal of a number lies in its interval. So a number is read back as
it was written.
-/

namespace Reshape.Decimal

open Binary64

/-- The fraction that a decimal stands for. -/
def value (decimal : Decimal) : ℚ := decimal.digits * 10 ^ decimal.exponent

section Digits

variable {n : Nat}

/-- A whole number lies below the power of ten that its digits give. -/
theorem lt_pow_digitCount (n : Nat) : n < 10 ^ digitCount n :=
  (Nat.length_toDigits_le_iff (by decide) Nat.length_toDigits_pos).1 le_rfl

/-- A positive whole number reaches the power of ten of its first digit. -/
theorem pow_digitCount_le (positive : 0 < n) : 10 ^ (digitCount n - 1) ≤ n := by
  by_cases single : digitCount n - 1 = 0
  · rw [single]
    omega
  · have longer := (Nat.length_toDigits_le_iff (n := n) (k := digitCount n - 1)
      (b := 10) (by decide) (by omega)).not.1 (by unfold digitCount at *; omega)
    omega

/-- There is always a digit. -/
theorem digitCount_pos (n : Nat) : 0 < digitCount n := Nat.length_toDigits_pos

end Digits

variable {decimal : Decimal} {significand : Nat} {exponent : Int}

/-- A decimal lies below the power of ten that its digits and its exponent give. -/
theorem value_lt (decimal : Decimal) :
    decimal.value < 10 ^ (decimal.exponent + digitCount decimal.digits) := by
  have digits : (decimal.digits : ℚ) < 10 ^ digitCount decimal.digits := by
    exact_mod_cast lt_pow_digitCount decimal.digits
  rw [value, add_comm, zpow_add₀ (by norm_num), zpow_natCast]
  gcongr

/-- A positive decimal reaches the power of ten of its first digit. -/
theorem le_value (positive : 0 < decimal.digits) :
    (10 : ℚ) ^ (decimal.exponent + digitCount decimal.digits - 1) ≤ decimal.value := by
  have digits : (10 : ℚ) ^ (digitCount decimal.digits - 1) ≤ decimal.digits := by
    exact_mod_cast pow_digitCount_le positive
  have count := digitCount_pos decimal.digits
  -- The power of ten is cut at the exponent, and the digits reach the rest.
  have split : decimal.exponent + digitCount decimal.digits - 1 =
      ((digitCount decimal.digits - 1 : Nat) : Int) + decimal.exponent := by omega
  rw [value, split, zpow_add₀ (by norm_num), zpow_natCast]
  gcongr

/-- The powers of two of finite numbers lie between powers of ten. -/
theorem two_pow_lt_ten_pow : (2 : ℚ) ^ 1075 < 10 ^ 400 := by
  have whole : 2 ^ 1075 < 10 ^ 400 := by decide +kernel
  exact_mod_cast whole

/-- What rounds to a finite number is neither too large nor too small to be expanded. -/
theorem bounds_of_roundsTo {q : ℚ} (normal : Normal significand exponent)
    (nonzero : 0 < significand) (finite : magnitude significand exponent < infinityBits)
    (rounds : RoundsTo significand exponent q) :
    (10 : ℚ) ^ (-400 : Int) ≤ q ∧ q < 10 ^ (400 : Int) := by
  -- In units of the last place the decimal is between half a unit and the greatest significand.
  have unit : (0 : ℚ) < 2 ^ exponent := by positivity
  have low := (le_div_iff₀ unit).1 rounds.low
  have high := (div_le_iff₀ unit).1 rounds.high
  have least := reach_le significand exponent
  have lowest : (-1074 : Int) ≤ exponent := normal.lowest
  have highest : exponent ≤ 972 := by
    have top : infinityBits = 2047 * leadingBit := rfl
    have field : (exponent - lowestExponent).toNat * leadingBit < 2047 * leadingBit := by
      unfold magnitude at finite
      omega
    have := Nat.lt_of_mul_lt_mul_right field
    unfold lowestExponent at this
    omega
  have one : (1 : ℚ) ≤ significand := by exact_mod_cast nonzero
  have size : (significand : ℚ) + 1 ≤ 2 ^ 53 := by
    have : significand + 1 ≤ 2 ^ 53 := normal.below
    exact_mod_cast this
  constructor
  -- The least float is above ten to the power of -400, and the greatest below that of 400.
  · calc (10 : ℚ) ^ (-400 : Int) ≤ 2 ^ (-1075 : Int) :=
        inv_anti₀ (by positivity) two_pow_lt_ten_pow.le
      _ = 1 / 2 * 2 ^ (-1074 : Int) := by
        rw [show (-1075 : Int) = -1 + -1074 by norm_num, zpow_add₀ two_ne_zero]
        norm_num
      _ ≤ 1 / 2 * 2 ^ exponent := by
        gcongr
        norm_num
      _ ≤ (significand - reach significand exponent) * 2 ^ exponent := by
        gcongr
        linarith
      _ ≤ q := low
  · calc q ≤ (significand + 1 / 2) * 2 ^ exponent := high
      _ ≤ 2 ^ 53 * 2 ^ exponent := by
        gcongr
        linarith
      _ ≤ 2 ^ 53 * 2 ^ (972 : Int) := by
        gcongr
        norm_num
      _ = 2 ^ (1025 : Int) := by
        rw [show (1025 : Int) = 53 + 972 by norm_num, zpow_add₀ two_ne_zero]
        norm_num
      _ ≤ 2 ^ (1075 : Int) := zpow_le_zpow_right₀ one_le_two (by norm_num)
      _ < 10 ^ (400 : Int) := two_pow_lt_ten_pow

/-- A decimal that rounds to a number is read as the number. -/
theorem toBinary64_eq (negative : Bool) (normal : Normal significand exponent)
    (nonzero : 0 < significand) (finite : magnitude significand exponent < infinityBits)
    (rounds : RoundsTo significand exponent decimal.value) :
    decimal.toBinary64 negative = ofMagnitude negative (magnitude significand exponent) := by
  -- The decimal is inside the range that is expanded, so that neither early answer is given.
  obtain ⟨least, greatest⟩ := bounds_of_roundsTo normal nonzero finite rounds
  have powers {a b : Int} (lt : (10 : ℚ) ^ a < 10 ^ b) : a < b :=
    (zpow_lt_zpow_iff_right₀ (by norm_num)).1 lt
  have digits : 0 < decimal.digits := by
    rcases Nat.eq_zero_or_pos decimal.digits with zero | positive
    · have := rounds.pos nonzero
      simp [value, zero] at this
    · exact positive
  have below := powers ((le_value digits).trans_lt greatest)
  have above := powers (least.trans_lt (value_lt decimal))
  rw [toBinary64, if_neg digits.ne']
  simp only
  rw [if_neg (by omega), if_neg (by omega)]
  -- The decimal is expanded to a quotient, of which the exponent scales the upper or lower part.
  split
  next whole =>
    obtain ⟨k, same⟩ := Int.eq_ofNat_of_zero_le whole
    refine ofQuotient_eq negative normal nonzero finite one_pos ?_
    rw [value, same] at rounds
    rw [same]
    simpa using rounds
  next fraction =>
    obtain ⟨k, same⟩ : ∃ k : Nat, decimal.exponent = -k := ⟨(-decimal.exponent).toNat, by omega⟩
    refine ofQuotient_eq negative normal nonzero finite (Nat.pow_pos (by decide)) ?_
    rw [value, same, zpow_neg, ← div_eq_mul_inv] at rounds
    rw [same]
    simpa using rounds

section Interval

variable {numerator denominator : Nat}

/-- The bounds of the interval of a number, over its denominator: the fractions that round to the
number, and the number itself. -/
theorem interval_spec (nonzero : 0 < significand) (exponent : Int) :
    0 < (interval significand exponent).denominator ∧
      ((interval significand exponent).low : ℚ) =
        (significand - reach significand exponent) * 2 ^ exponent *
          (interval significand exponent).denominator ∧
      ((interval significand exponent).middle : ℚ) =
        significand * 2 ^ exponent * (interval significand exponent).denominator ∧
      ((interval significand exponent).high : ℚ) =
        (significand + 1 / 2) * 2 ^ exponent * (interval significand exponent).denominator := by
  unfold interval
  simp only
  -- With the scales named, the bounds are integers, and linear in the unit of the last place.
  generalize scales : (if 0 ≤ exponent then 1 <<< exponent.toNat else 1 : Nat) = scale
  generalize denominators :
    (if 0 ≤ exponent then 4 else 4 <<< (-exponent).toNat : Nat) = denominator
  -- A scale that would be a negative power is moved to the denominator instead.
  have unit : 0 < denominator ∧ (4 * scale : ℚ) = 2 ^ exponent * denominator := by
    split_ifs at scales denominators with sign
    · obtain ⟨k, rfl⟩ := Int.eq_ofNat_of_zero_le sign
      subst scales denominators
      refine ⟨by decide, ?_⟩
      simp [Nat.shiftLeft_eq]
      ring
    · obtain ⟨k, rfl⟩ : ∃ k : Nat, exponent = -k := ⟨(-exponent).toNat, by omega⟩
      subst scales denominators
      refine ⟨by simp [Nat.shiftLeft_eq], ?_⟩
      simp [Nat.shiftLeft_eq]
      field_simp
  obtain ⟨positive, unit⟩ := unit
  refine ⟨positive, ?_, ?_, ?_⟩
  -- Below a power of two the numbers are half as far apart, so the interval reaches half as far.
  · unfold reach
    split
    · rw [Nat.cast_mul, Nat.cast_sub (by omega)]
      push_cast
      linear_combination (significand - 1 / 4 : ℚ) * unit
    · rw [Nat.cast_mul, Nat.cast_sub (by omega)]
      push_cast
      linear_combination (significand - 1 / 2 : ℚ) * unit
  · push_cast
    linear_combination significand * unit
  · push_cast
    linear_combination (significand + 1 / 2 : ℚ) * unit

/-- A fraction lies in the interval of a number exactly if it rounds to the number. -/
theorem holds_iff (nonzero : 0 < significand) (positive : 0 < denominator) :
    (interval significand exponent).holds numerator denominator = true ↔
      RoundsTo significand exponent (numerator / denominator) := by
  obtain ⟨positive', low, -, high⟩ := interval_spec nonzero exponent
  have closed : (interval significand exponent).closed = (significand % 2 == 0) := rfl
  generalize interval significand exponent = around at *
  have unit : (0 : ℚ) < 2 ^ exponent := by positivity
  have size : (0 : ℚ) < denominator := by exact_mod_cast positive
  have size' : (0 : ℚ) < around.denominator := by exact_mod_cast positive'
  -- Either bound compares to the fraction as it does over the common denominator.
  have below : around.low * denominator ≤ numerator * around.denominator ↔
      significand - reach significand exponent ≤ (numerator / denominator : ℚ) / 2 ^ exponent := by
    rw [le_div_iff₀ unit, le_div_iff₀ size, ← mul_le_mul_iff_left₀ size', mul_right_comm, ← low]
    exact_mod_cast Iff.rfl
  have below' : around.low * denominator < numerator * around.denominator ↔
      significand - reach significand exponent < (numerator / denominator : ℚ) / 2 ^ exponent := by
    rw [lt_div_iff₀ unit, lt_div_iff₀ size, ← mul_lt_mul_iff_left₀ size', mul_right_comm, ← low]
    exact_mod_cast Iff.rfl
  have above : numerator * around.denominator ≤ around.high * denominator ↔
      (numerator / denominator : ℚ) / 2 ^ exponent ≤ significand + 1 / 2 := by
    rw [div_le_iff₀ unit, div_le_iff₀ size, ← mul_le_mul_iff_left₀ size', mul_right_comm _ _
      (around.denominator : ℚ), ← high]
    exact_mod_cast Iff.rfl
  have above' : numerator * around.denominator < around.high * denominator ↔
      (numerator / denominator : ℚ) / 2 ^ exponent < significand + 1 / 2 := by
    rw [div_lt_iff₀ unit, div_lt_iff₀ size, ← mul_lt_mul_iff_left₀ size', mul_right_comm _ _
      (around.denominator : ℚ), ← high]
    exact_mod_cast Iff.rfl
  simp only [Interval.holds, closed, beq_iff_eq]
  split
  next even =>
    rw [Bool.and_eq_true, decide_eq_true_eq, decide_eq_true_eq, below, above]
    exact ⟨fun ⟨low, high⟩ => ⟨low, high, fun odd => by omega⟩, fun rounds =>
      ⟨rounds.low, rounds.high⟩⟩
  next odd =>
    rw [Bool.and_eq_true, decide_eq_true_eq, decide_eq_true_eq, below', above']
    exact ⟨fun ⟨low, high⟩ => ⟨low.le, high.le, fun _ => ⟨low, high⟩⟩, fun rounds =>
      rounds.odd (by omega)⟩

/-- A decimal as a quotient of whole numbers. -/
theorem value_eq (digits : Nat) (exponent : Int) :
    value ⟨digits, exponent⟩ =
      ((digits * (if 0 ≤ exponent then Nat.pow 10 exponent.toNat else 1) : Nat) : ℚ) /
        ((if 0 ≤ exponent then 1 else Nat.pow 10 (-exponent).toNat : Nat) : ℚ) := by
  -- Ten to the exponent stands above the line, or its inverse below.
  unfold value
  split
  next sign =>
    obtain ⟨k, rfl⟩ := Int.eq_ofNat_of_zero_le sign
    simp
  next sign =>
    obtain ⟨k, rfl⟩ : ∃ k : Nat, exponent = -k := ⟨(-exponent).toNat, by omega⟩
    simp [div_eq_mul_inv]

/-- The decimals of a grid next to a number: one of them is what the grid has in the interval of the
number, if it has anything there. -/
theorem onGrid?_spec (nonzero : 0 < significand) (exponent grid : Int) :
    ∃ under, value ⟨under, grid⟩ ≤ significand * 2 ^ exponent ∧
      significand * 2 ^ exponent < value ⟨under + 1, grid⟩ ∧
      (∀ decimal, (interval significand exponent).onGrid? grid = some decimal →
        RoundsTo significand exponent decimal.value ∧
          (decimal = ⟨under, grid⟩ ∨ decimal = ⟨under + 1, grid⟩)) ∧
      (RoundsTo significand exponent (value ⟨under + 1, grid⟩) →
        ((interval significand exponent).onGrid? grid).isSome) := by
  -- Over the denominator of the interval the grid has the steps that whole-number division finds.
  obtain ⟨positive, -, middle, -⟩ := interval_spec nonzero exponent
  unfold Interval.onGrid?
  have values := fun digits => value_eq digits grid
  generalize ups : (if 0 ≤ grid then 1 else Nat.pow 10 (-grid).toNat : Nat) = up at values
  generalize downs : (if 0 ≤ grid then Nat.pow 10 grid.toNat else 1 : Nat) = down at values
  have upPositive : 0 < up := by
    subst ups
    split
    · exact one_pos
    · exact Nat.pow_pos (by decide)
  have downPositive : 0 < down := by
    subst downs
    split
    · exact Nat.pow_pos (by decide)
    · exact one_pos
  have inside (digits : Nat) : (interval significand exponent).holds (digits * down) up = true ↔
      RoundsTo significand exponent (value ⟨digits, grid⟩) := by
    rw [values]
    exact holds_iff nonzero upPositive
  simp only
  generalize interval significand exponent = around at positive middle inside
  have unit : 0 < around.denominator * down := Nat.mul_pos positive downPositive
  have size : (0 : ℚ) < up := by exact_mod_cast upPositive
  have size' : (0 : ℚ) < around.denominator := by exact_mod_cast positive
  have least := Nat.div_mul_le_self (around.middle * up) (around.denominator * down)
  have greatest := Nat.lt_div_mul_add (a := around.middle * up) unit
  generalize around.middle * up / (around.denominator * down) = under at least greatest ⊢
  -- The quotient is the decimal below the number, and the next one is above it.
  refine ⟨under, ?_, ?_, ?_, ?_⟩
  · rw [values, div_le_iff₀ size, ← mul_le_mul_iff_left₀ size', mul_right_comm _ (up : ℚ), ← middle]
    have : under * down * around.denominator ≤ around.middle * up := by
      rw [mul_assoc, mul_comm down]
      exact least
    exact_mod_cast this
  · rw [values, lt_div_iff₀ size, ← mul_lt_mul_iff_left₀ size', mul_right_comm _ (up : ℚ), ← middle]
    have : around.middle * up < (under + 1) * down * around.denominator := by
      rw [mul_assoc, mul_comm down, add_mul, one_mul]
      exact greatest
    exact_mod_cast this
  -- A decimal is taken only if it is in the interval; of two the nearer one is taken.
  · intro decimal found
    split at found
    next => cases found
    next first _ =>
      obtain rfl := Option.some.inj found
      exact ⟨(inside under).1 first, .inl rfl⟩
    next _ second =>
      obtain rfl := Option.some.inj found
      exact ⟨(inside (under + 1)).1 second, .inr rfl⟩
    next first second =>
      split at found
      · obtain rfl := Option.some.inj found
        exact ⟨(inside under).1 first, .inl rfl⟩
      · obtain rfl := Option.some.inj found
        exact ⟨(inside (under + 1)).1 second, .inr rfl⟩
  -- With one decimal inside there is an answer in each of the ways.
  · intro rounds
    rw [← inside] at rounds
    simp only [rounds]
    cases around.holds (under * down) up with
    | false => rfl
    | true =>
      simp only
      split <;> rfl

/-- What the coarsest grid has in the interval of a number is positive and rounds to the number. -/
theorem roundsTo_of_coarsest (nonzero : 0 < significand) {grids : Nat} {grid : Int}
    (found : (interval significand exponent).coarsest grids grid = some decimal) :
    decimal.digits ≠ 0 ∧ RoundsTo significand exponent decimal.value := by
  -- The grids become finer with each step, and the first positive decimal is taken.
  induction grids generalizing grid with
  | zero => cases found
  | succ grids ih =>
    obtain ⟨_, -, -, rounds, -⟩ := onGrid?_spec nonzero exponent grid
    unfold Interval.coarsest at found
    cases here : (interval significand exponent).onGrid? grid with
    | none =>
      rw [here] at found
      exact ih found
    | some other =>
      rw [here] at found
      simp only at found
      split at found
      next => exact ih found
      next digits =>
        obtain rfl := Option.some.inj found
        exact ⟨digits, (rounds other here).1⟩

/-- A grid that has a positive decimal in an interval is reached, if no coarser one has. -/
theorem coarsest_isSome {around : Interval} {grids steps : Nat} {grid : Int} (reached : steps < grids)
    (found : around.onGrid? (grid - steps) = some decimal) (digits : decimal.digits ≠ 0) :
    (around.coarsest grids grid).isSome := by
  -- The search passes the coarser grids, unless it ends at one of them with a decimal.
  induction grids generalizing grid steps with
  | zero => cases reached
  | succ grids ih =>
    unfold Interval.coarsest
    cases steps with
    | zero =>
      rw [Int.natCast_zero, sub_zero] at found
      simp [found, digits]
    | succ steps =>
      have later : (around.coarsest grids (grid - 1)).isSome := by
        refine ih (Nat.lt_of_succ_lt_succ reached) ?_
        rw [← found]
        congr 1
        omega
      split
      · split
        · exact later
        · rfl
      · exact later

end Interval

/-- The leading exponent of a fraction is not above that of its first digit. -/
theorem leadingExponent_le {numerator denominator : Nat} (above : 0 < numerator)
    (positive : 0 < denominator) :
    (10 : ℚ) ^ leadingExponent numerator denominator ≤ numerator / denominator := by
  have size : (0 : ℚ) < denominator := by exact_mod_cast positive
  have size' : (0 : ℚ) < numerator := by exact_mod_cast above
  unfold leadingExponent
  -- Above one the digits of the quotient are counted, and below one those of the inverse.
  split
  next whole =>
    have quotient : 0 < numerator / denominator := Nat.div_pos whole positive
    have count := digitCount_pos (numerator / denominator)
    have power : ((digitCount (numerator / denominator) : Int) - 1) =
        ((digitCount (numerator / denominator) - 1 : Nat) : Int) := by omega
    rw [power, zpow_natCast, le_div_iff₀ size]
    have := Nat.mul_le_mul_right denominator (pow_digitCount_le quotient)
    have := this.trans (Nat.div_mul_le_self numerator denominator)
    exact_mod_cast this
  next fraction =>
    rw [zpow_neg, zpow_natCast, inv_eq_one_div, div_le_div_iff₀ (by positivity) size, one_mul]
    have count := Nat.mul_le_mul_right numerator
      (Nat.succ_le_of_lt (lt_pow_digitCount (denominator / numerator)))
    have quotient := Nat.lt_div_mul_add (a := denominator) above
    have bound : denominator ≤ numerator * 10 ^ digitCount (denominator / numerator) := by
      rw [Nat.succ_mul] at count
      rw [mul_comm]
      omega
    exact_mod_cast bound

/-- Zeros at the end of a decimal do not count. -/
theorem value_withoutZeros (decimal : Decimal) (steps : Nat) :
    (withoutZeros decimal steps).value = decimal.value := by
  -- Each step drops one zero and raises the exponent by one.
  induction steps generalizing decimal with
  | zero => rfl
  | succ steps ih =>
    unfold withoutZeros
    split
    next zero =>
      rw [ih]
      have digits : (decimal.digits : ℚ) = 10 * (decimal.digits / 10 : Nat) := by
        have : decimal.digits = 10 * (decimal.digits / 10) := by omega
        exact_mod_cast this
      rw [value, value, digits, zpow_add₀ (by norm_num), zpow_one]
      ring
    next => rfl

/-- A decimal stays positive when the zeros at its end are left out. -/
theorem digits_withoutZeros {decimal : Decimal} (digits : decimal.digits ≠ 0) (steps : Nat) :
    (withoutZeros decimal steps).digits ≠ 0 := by
  -- Dropping a zero from a positive number of digits leaves a positive one.
  induction steps generalizing decimal with
  | zero => exact digits
  | succ steps ih =>
    unfold withoutZeros
    split
    next zero =>
      refine ih ?_
      simp only
      omega
    next => exact digits

/-- A fraction above a number, and less than half a unit in the last place above, rounds to it. -/
theorem roundsTo_of_above {q : ℚ} (above : significand * 2 ^ exponent < q)
    (near : q < (significand + 1 / 2) * 2 ^ exponent) : RoundsTo significand exponent q := by
  have unit : (0 : ℚ) < 2 ^ exponent := by positivity
  have reaches : 0 < reach significand exponent := by
    unfold reach
    split <;> norm_num
  -- Both bounds are taken in units of the last bit.
  have above := (lt_div_iff₀ unit).2 above
  have near := (div_lt_iff₀ unit).2 near
  exact ⟨by linarith, near.le, fun _ => ⟨by linarith, near⟩⟩

/-- Seventeen digits tell a number from its neighbours: the grid of the last of them has a positive
decimal in the interval of the number. -/
theorem exists_onGrid? (normal : Normal significand exponent) (nonzero : 0 < significand)
    {lead : Int} (leads : (10 : ℚ) ^ lead ≤ significand * 2 ^ exponent) :
    ∃ decimal, (interval significand exponent).onGrid? (lead - 17) = some decimal ∧
      decimal.digits ≠ 0 := by
  have unit : (0 : ℚ) < 2 ^ exponent := by positivity
  have size : (significand : ℚ) < 2 ^ 53 := by
    have : significand < 2 ^ 53 := normal.below
    exact_mod_cast this
  have seventeen : (10 : ℚ) ^ lead = 10 ^ 17 * 10 ^ (lead - 17) := by
    rw [← zpow_natCast, ← zpow_add₀ (by norm_num)]
    congr 1
    norm_num
  have step : (0 : ℚ) < 10 ^ (lead - 17) := by positivity
  -- A step of the grid is less than half a unit in the last place.
  have fine : (10 : ℚ) ^ (lead - 17) < 1 / 2 * 2 ^ exponent := by
    have : (significand : ℚ) * 2 ^ exponent < 2 ^ 53 * 2 ^ exponent := by gcongr
    have : (10 : ℚ) ^ 17 * 10 ^ (lead - 17) < 2 ^ 53 * 2 ^ exponent := by
      rw [← seventeen]
      exact leads.trans_lt this
    linarith
  obtain ⟨under, below, above, spec, found⟩ := onGrid?_spec nonzero exponent (lead - 17)
  have next : value ⟨under + 1, lead - 17⟩ = value ⟨under, lead - 17⟩ + 10 ^ (lead - 17) := by
    simp only [value]
    push_cast
    ring
  have rounds := roundsTo_of_above above (by rw [next]; linarith)
  obtain ⟨decimal, here⟩ := Option.isSome_iff_exists.1 (found rounds)
  refine ⟨decimal, here, ?_⟩
  have positive : under ≠ 0 := by
    rintro rfl
    rw [next] at above
    simp only [value, Nat.cast_zero, zero_mul, zero_add] at above
    linarith
  rcases (spec decimal here).2 with rfl | rfl
  · exact positive
  · exact Nat.succ_ne_zero under

/-- The shortest decimal of a number is positive and rounds to the number. -/
theorem roundsTo_shortest (normal : Normal significand exponent) (nonzero : 0 < significand) :
    (shortest significand exponent).digits ≠ 0 ∧
      RoundsTo significand exponent (shortest significand exponent).value := by
  -- The search starts one above the leading exponent of the number, which it cannot exceed.
  obtain ⟨positive, -, middle, -⟩ := interval_spec nonzero exponent
  have size : (0 : ℚ) < (interval significand exponent).denominator := by exact_mod_cast positive
  have above : 0 < (interval significand exponent).middle := by
    have : (0 : ℚ) < significand := by exact_mod_cast nonzero
    have : (0 : ℚ) < (interval significand exponent).middle := by
      rw [middle]
      positivity
    exact_mod_cast this
  have leads := leadingExponent_le above positive
  rw [middle, mul_div_cancel_right₀ _ size.ne'] at leads
  unfold shortest
  simp only
  generalize leadingExponent (interval significand exponent).middle
    (interval significand exponent).denominator = lead at leads ⊢
  -- A grid seventeen places below the leading exponent has a decimal, and it is among those searched.
  obtain ⟨last, here, digits⟩ := exists_onGrid? normal nonzero leads
  have reached : ((interval significand exponent).coarsest 20 (lead + 1)).isSome := by
    refine coarsest_isSome (show 18 < 20 by decide) ?_ digits
    rw [← here]
    congr 1
    norm_num
    ring
  obtain ⟨decimal, found⟩ := Option.isSome_iff_exists.1 reached
  obtain ⟨digits, rounds⟩ := roundsTo_of_coarsest nonzero found
  rw [found]
  refine ⟨digits_withoutZeros digits 20, ?_⟩
  rwa [value_withoutZeros]

/-- A number is read back from every decimal of the same size as its shortest one. -/
theorem toBinary64_of_shortest {x : Binary64} {negative : Bool}
    (reading : x.reading = .finite negative significand exponent) (nonzero : 0 < significand)
    (same : decimal.value = (shortest significand exponent).value) :
    decimal.toBinary64 negative = x := by
  obtain ⟨normal, finite, whole⟩ := finite_of_reading reading
  obtain ⟨-, rounds⟩ := roundsTo_shortest normal nonzero
  rw [toBinary64_eq negative normal nonzero finite (same ▸ rounds), whole]

end Reshape.Decimal
