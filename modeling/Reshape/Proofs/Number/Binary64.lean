import Mathlib.Algebra.Order.Field.Power
import Mathlib.Data.Rat.Cast.Order
import Mathlib.Tactic.FieldSimp
import Mathlib.Tactic.Linarith
import Mathlib.Tactic.NormNum
import Mathlib.Tactic.Positivity
import Mathlib.Tactic.Ring
import Reshape.Number.Binary64

/-!
Rounding to binary floating-point numbers: every fraction that lies closer to a number than to its
neighbours is rounded to that number, and so is one halfway to a neighbour if the significand is
even.
-/

namespace Reshape.Binary64

/-- A significand and an exponent as numbers have them: the exponent is the lowest one, or the
significand has 53 bits. -/
structure Normal (significand : Nat) (exponent : Int) : Prop where
  lowest : lowestExponent ≤ exponent
  below : significand < 2 * leadingBit
  leading : lowestExponent < exponent → leadingBit ≤ significand

/-- How far the fractions that round to a number reach below it, in units of the last place. The
numbers below a power of two lie twice as close. -/
def reach (significand : Nat) (exponent : Int) : ℚ :=
  if significand = leadingBit ∧ lowestExponent < exponent then 1 / 4 else 1 / 2

/-- A fraction rounds to a significand times a power of two; the bounds do if it is even. -/
structure RoundsTo (significand : Nat) (exponent : Int) (q : ℚ) : Prop where
  low : significand - reach significand exponent ≤ q / 2 ^ exponent
  high : q / 2 ^ exponent ≤ significand + 1 / 2
  odd : significand % 2 = 1 →
    significand - reach significand exponent < q / 2 ^ exponent ∧
      q / 2 ^ exponent < significand + 1 / 2

/-- The leading bit as a fraction. -/
theorem cast_leadingBit : (leadingBit : ℚ) = 2 ^ 52 := by
  rw [show leadingBit = 2 ^ 52 from rfl]
  norm_num

section Quotient

variable {numerator denominator : Nat}

/-- A quotient scaled by a power of two is multiplied by it. -/
theorem div_scaled (numerator denominator : Nat) (power : Int) :
    ((scaled numerator denominator power).1 : ℚ) / (scaled numerator denominator power).2 =
      numerator / denominator * 2 ^ power := by
  -- The upper part is scaled up, or the lower part is scaled in place of scaling the upper one
  -- down.
  unfold scaled
  split
  next up =>
    obtain ⟨k, rfl⟩ := Int.eq_ofNat_of_zero_le up
    simp only [Int.toNat_natCast, Nat.shiftLeft_eq, Nat.cast_mul, Nat.cast_pow, Nat.cast_ofNat,
      zpow_natCast]
    ring
  next down =>
    obtain ⟨k, rfl⟩ : ∃ k : Nat, power = -k := ⟨(-power).toNat, by omega⟩
    simp only [neg_neg, Int.toNat_natCast, Nat.shiftLeft_eq, Nat.cast_mul, Nat.cast_pow,
      Nat.cast_ofNat, zpow_neg, zpow_natCast]
    rw [div_mul_eq_div_div, div_eq_mul_inv _ ((2 : ℚ) ^ k)]

/-- A positive denominator stays positive when a quotient is scaled. -/
theorem scaled_pos (positive : 0 < denominator) (power : Int) :
    0 < (scaled numerator denominator power).2 := by
  unfold scaled
  split
  · exact positive
  · rw [Nat.shiftLeft_eq]
    positivity

/-- A quotient is rounded to a whole number that it is closest to, and from halfway to an even
one. -/
theorem roundedQuotient_eq {whole : Nat} (positive : 0 < denominator)
    (low : (whole : ℚ) - 1 / 2 ≤ numerator / denominator)
    (high : (numerator / denominator : ℚ) ≤ whole + 1 / 2)
    (odd : whole % 2 = 1 →
      (whole : ℚ) - 1 / 2 < numerator / denominator ∧
        (numerator / denominator : ℚ) < whole + 1 / 2) :
    roundedQuotient numerator denominator = whole := by
  have size : (0 : ℚ) < denominator := by exact_mod_cast positive
  rw [le_div_iff₀ size] at low
  rw [div_le_iff₀ size] at high
  rw [lt_div_iff₀ size, div_lt_iff₀ size] at odd
  -- The bounds in whole numbers, with the quotient and the remainder for the numerator.
  have above : 2 * (whole * denominator) ≤ 2 * numerator + denominator := by
    have : (2 * (whole * denominator) : ℚ) ≤ 2 * numerator + denominator := by linarith
    exact_mod_cast this
  have below : 2 * numerator ≤ 2 * (whole * denominator) + denominator := by
    have : (2 * numerator : ℚ) ≤ 2 * (whole * denominator) + denominator := by linarith
    exact_mod_cast this
  have strict : whole % 2 = 1 → 2 * (whole * denominator) < 2 * numerator + denominator ∧
      2 * numerator < 2 * (whole * denominator) + denominator := by
    intro is
    obtain ⟨first, second⟩ := odd is
    constructor
    · have : (2 * (whole * denominator) : ℚ) < 2 * numerator + denominator := by linarith
      exact_mod_cast this
    · have : (2 * numerator : ℚ) < 2 * (whole * denominator) + denominator := by linarith
      exact_mod_cast this
  have split := Nat.div_add_mod numerator denominator
  have small := Nat.mod_lt numerator positive
  rw [mul_comm denominator] at split
  unfold roundedQuotient
  generalize numerator / denominator = quotient at *
  generalize numerator % denominator = remainder at *
  have least : quotient ≤ whole := by
    by_contra beyond
    have more := Nat.mul_le_mul_right denominator (show whole + 1 ≤ quotient by omega)
    rw [Nat.add_mul] at more
    omega
  have greatest : whole ≤ quotient + 1 := by
    by_contra beyond
    have more := Nat.mul_le_mul_right denominator (show quotient + 2 ≤ whole by omega)
    rw [Nat.add_mul] at more
    omega
  obtain rfl | rfl : whole = quotient ∨ whole = quotient + 1 := by omega
  · simp only
    split_ifs <;> omega
  · rw [Nat.add_mul] at above below strict
    simp only
    split_ifs <;> omega

/-- A quotient lies between powers of two that the logarithms of its parts give. -/
theorem between_logs (above : 0 < numerator) (positive : 0 < denominator) :
    (2 : ℚ) ^ ((numerator.log2 : Int) - denominator.log2 - 1) < numerator / denominator ∧
      (numerator / denominator : ℚ) < 2 ^ ((numerator.log2 : Int) - denominator.log2 + 1) := by
  -- Each part lies between the power of its logarithm and the next one.
  have size : (0 : ℚ) < denominator := by exact_mod_cast positive
  have two : (2 : ℚ) ≠ 0 := by norm_num
  have first : (2 : ℚ) ^ numerator.log2 ≤ numerator := by
    exact_mod_cast Nat.log2_self_le above.ne'
  have second : (numerator : ℚ) < 2 ^ (numerator.log2 + 1) := by
    exact_mod_cast Nat.lt_log2_self
  have third : (2 : ℚ) ^ denominator.log2 ≤ denominator := by
    exact_mod_cast Nat.log2_self_le positive.ne'
  have fourth : (denominator : ℚ) < 2 ^ (denominator.log2 + 1) := by
    exact_mod_cast Nat.lt_log2_self
  rw [lt_div_iff₀ size, div_lt_iff₀ size]
  constructor
  · calc (2 : ℚ) ^ ((numerator.log2 : Int) - denominator.log2 - 1) * denominator
        < 2 ^ ((numerator.log2 : Int) - denominator.log2 - 1) * 2 ^ (denominator.log2 + 1) := by
          gcongr
      _ = 2 ^ numerator.log2 := by
          rw [← zpow_natCast, ← zpow_natCast, ← zpow_add₀ two]
          congr 1
          push_cast
          ring
      _ ≤ numerator := first
  · calc (numerator : ℚ) < 2 ^ (numerator.log2 + 1) := second
      _ = 2 ^ ((numerator.log2 : Int) - denominator.log2 + 1) * 2 ^ denominator.log2 := by
          rw [← zpow_natCast, ← zpow_natCast, ← zpow_add₀ two]
          congr 1
          push_cast
          ring
      _ ≤ 2 ^ ((numerator.log2 : Int) - denominator.log2 + 1) * denominator := by
          gcongr

/-- On the grid of its exponent a quotient has at most 53 bits, and has as many unless the exponent
is the lowest one. -/
theorem gridExponent_spec (above : 0 < numerator) (positive : 0 < denominator) :
    lowestExponent ≤ gridExponent numerator denominator ∧
      (numerator / denominator : ℚ) < 2 ^ (gridExponent numerator denominator + 53) ∧
      (lowestExponent < gridExponent numerator denominator →
        (2 : ℚ) ^ (gridExponent numerator denominator + 52) ≤ numerator / denominator) := by
  obtain ⟨least, greatest⟩ := between_logs above positive
  unfold gridExponent
  generalize guessed :
    max ((numerator.log2 : Int) - denominator.log2 - 53) lowestExponent = guess
  -- Whether the guess is one too low can be told from the quotient itself.
  have reached : 2 * leadingBit ≤ (scaled numerator denominator (-guess)).1 /
      (scaled numerator denominator (-guess)).2 ↔
        (2 : ℚ) ^ (guess + 53) ≤ numerator / denominator := by
    have positive' : 0 < (scaled numerator denominator (-guess)).2 := scaled_pos positive _
    have size : (0 : ℚ) < (scaled numerator denominator (-guess)).2 := by
      exact_mod_cast positive'
    have value := div_scaled numerator denominator (-guess)
    rw [zpow_neg, ← div_eq_mul_inv, div_eq_iff size.ne'] at value
    have shift : (2 : ℚ) ^ (guess + 53) = 2 * 2 ^ 52 * 2 ^ guess := by
      rw [zpow_add₀ two_ne_zero]
      norm_num
      ring
    have unit : (0 : ℚ) < 2 ^ guess := by positivity
    rw [Nat.le_div_iff_mul_le positive', shift, ← le_div_iff₀ unit, ← mul_le_mul_iff_left₀ size,
      ← value]
    exact_mod_cast Iff.rfl
  have powers {a b : Int} (le : a ≤ b) : (2 : ℚ) ^ a ≤ 2 ^ b := zpow_le_zpow_right₀ one_le_two le
  by_cases more : (2 : ℚ) ^ (guess + 53) ≤ numerator / denominator
  · simp only [reached, if_pos more]
    refine ⟨by omega, greatest.trans_le (powers (by omega)), fun _ => ?_⟩
    rwa [show guess + 1 + 52 = guess + 53 by ring]
  · simp only [reached, if_neg more]
    refine ⟨by omega, not_le.1 more, fun normal => ?_⟩
    exact (powers (by omega)).trans least.le

/-- A fraction that rounds to a positive number has the exponent of the number on its grid, or the
one before if it lies below a power of two. -/
theorem gridExponent_cases {significand : Nat} {exponent : Int} (normal : Normal significand exponent)
    (above : 0 < numerator) (positive : 0 < denominator)
    (rounds : RoundsTo significand exponent (numerator / denominator)) :
    gridExponent numerator denominator = exponent ∨
      (gridExponent numerator denominator = exponent - 1 ∧ significand = leadingBit ∧
        lowestExponent < exponent ∧ (numerator / denominator : ℚ) < leadingBit * 2 ^ exponent) := by
  obtain ⟨lowest, below, leading⟩ := gridExponent_spec above positive
  generalize gridExponent numerator denominator = grid at *
  have unit : (0 : ℚ) < 2 ^ exponent := by positivity
  have low := (le_div_iff₀ unit).1 rounds.low
  have high := (div_le_iff₀ unit).1 rounds.high
  have bits := cast_leadingBit
  have powers {a b : Int} (lt : (2 : ℚ) ^ a < 2 ^ b) : a < b :=
    (zpow_lt_zpow_iff_right₀ one_lt_two).1 lt
  have shift (k : Nat) : (2 : ℚ) ^ (exponent + k) = 2 ^ k * 2 ^ exponent := by
    rw [zpow_add₀ two_ne_zero, zpow_natCast, mul_comm]
  have least : grid ≤ exponent := by
    by_contra beyond
    have first := leading (by have := normal.lowest; omega)
    have last : (significand : ℚ) + 1 ≤ 2 ^ 53 := by
      have : significand + 1 ≤ 2 ^ 53 := normal.below
      exact_mod_cast this
    have : (2 : ℚ) ^ (grid + 52) < 2 ^ (exponent + (53 : Nat)) := by
      rw [shift]
      calc (2 : ℚ) ^ (grid + 52) ≤ (significand + 1 / 2) * 2 ^ exponent := first.trans high
        _ < 2 ^ 53 * 2 ^ exponent := by
          gcongr
          linarith
    have := powers this
    omega
  rcases normal.lowest.eq_or_lt with lowest' | higher
  · exact .inl (by omega)
  by_cases full : (2 : ℚ) ^ (exponent + (52 : Nat)) ≤ numerator / denominator
  · have := powers (full.trans_lt below)
    exact .inl (by omega)
  · -- Only the number at a power of two reaches below that.
    have power : significand = leadingBit := by
      by_contra other
      refine full ?_
      have next : (leadingBit : ℚ) + 1 ≤ significand := by
        have : leadingBit + 1 ≤ significand := by have := normal.leading higher; omega
        exact_mod_cast this
      rw [shift]
      rw [reach, if_neg (by simp [other])] at low
      calc (2 : ℚ) ^ 52 * 2 ^ exponent ≤ (significand - 1 / 2) * 2 ^ exponent := by
            gcongr
            linarith
        _ ≤ numerator / denominator := low
    rw [reach, if_pos ⟨power, higher⟩, power, bits] at low
    have : (2 : ℚ) ^ (exponent + (51 : Nat)) < 2 ^ (grid + 53) := by
      rw [shift]
      calc (2 : ℚ) ^ 51 * 2 ^ exponent ≤ (2 ^ 52 - 1 / 4) * 2 ^ exponent := by
            gcongr
            norm_num
        _ < 2 ^ (grid + 53) := low.trans_lt below
    have := powers this
    rw [shift] at full
    by_cases same : grid = exponent
    · exact .inl same
    · exact .inr ⟨by omega, power, higher, by rw [bits]; exact not_le.1 full⟩

/-- The magnitude bits of a significand at an exponent. -/
def magnitude (significand : Nat) (exponent : Int) : Nat :=
  (exponent - lowestExponent).toNat * leadingBit + significand

/-- No number reaches further below than half a unit in the last place. -/
theorem reach_le (significand : Nat) (exponent : Int) : reach significand exponent ≤ 1 / 2 := by
  unfold reach
  split <;> norm_num

/-- A fraction that rounds to a positive number is positive. -/
theorem RoundsTo.pos {significand : Nat} {exponent : Int} {q : ℚ} (nonzero : 0 < significand)
    (rounds : RoundsTo significand exponent q) : 0 < q := by
  -- The interval of a positive significand reaches no more than half a unit down.
  have unit : (0 : ℚ) < 2 ^ exponent := by positivity
  have one : (1 : ℚ) ≤ significand := by exact_mod_cast nonzero
  have least := reach_le significand exponent
  have low := (le_div_iff₀ unit).1 rounds.low
  have : 0 < (significand - reach significand exponent) * 2 ^ exponent := by
    apply mul_pos _ unit
    linarith
  exact this.trans_le low

/-- A fraction that rounds to a positive number is rounded to it. -/
theorem ofQuotient_eq {significand : Nat} {exponent : Int} (negative : Bool)
    (normal : Normal significand exponent) (nonzero : 0 < significand)
    (finite : magnitude significand exponent < infinityBits) (positive : 0 < denominator)
    (rounds : RoundsTo significand exponent (numerator / denominator)) :
    ofQuotient negative numerator denominator =
      ofMagnitude negative (magnitude significand exponent) := by
  have size : (0 : ℚ) < denominator := by exact_mod_cast positive
  have above : 0 < numerator := by
    have := (div_pos_iff_of_pos_right size).1 (rounds.pos nonzero)
    exact_mod_cast this
  have least := reach_le significand exponent
  have value (grid : Int) := div_scaled numerator denominator (-grid)
  have positive' (grid : Int) : 0 < (scaled numerator denominator (-grid)).2 :=
    scaled_pos positive _
  rw [ofQuotient, if_neg above.ne']
  rcases gridExponent_cases normal above positive rounds with same | ⟨before, power, higher, short⟩
  · have rounded : roundedQuotient (scaled numerator denominator (-exponent)).1
        (scaled numerator denominator (-exponent)).2 = significand := by
      have low := rounds.low
      refine roundedQuotient_eq (positive' exponent) ?_ ?_ fun odd => ?_
      all_goals rw [value, zpow_neg, ← div_eq_mul_inv]
      · linarith
      · exact rounds.high
      · obtain ⟨first, second⟩ := rounds.odd odd
        exact ⟨by linarith, second⟩
    simp only [same, rounded]
    rw [min_eq_right]
    · rfl
    · exact finite.le
  · -- The quotient is rounded up to the power of two.
    have unit : (0 : ℚ) < 2 ^ exponent := by positivity
    have halves : (numerator / denominator : ℚ) * 2 ^ (-(exponent - 1)) =
        2 * (numerator / denominator / 2 ^ exponent) := by
      rw [neg_sub, zpow_sub₀ two_ne_zero, zpow_one]
      ring
    have low := rounds.low
    have high := (div_lt_iff₀ unit).2 short
    rw [reach, if_pos ⟨power, higher⟩, power] at low
    have rounded : roundedQuotient (scaled numerator denominator (-(exponent - 1))).1
        (scaled numerator denominator (-(exponent - 1))).2 = 2 * leadingBit := by
      refine roundedQuotient_eq (positive' (exponent - 1)) ?_ ?_ fun odd => by omega
      all_goals
        rw [value, halves]
        push_cast
        linarith
    simp only [before, rounded, power]
    have carried : (exponent - 1 - lowestExponent).toNat * leadingBit + 2 * leadingBit =
        magnitude leadingBit exponent := by
      have steps : (exponent - lowestExponent).toNat =
        (exponent - 1 - lowestExponent).toNat + 1 := by omega
      rw [magnitude, steps, Nat.add_mul]
      omega
    rw [carried, min_eq_right (power ▸ finite.le)]

end Quotient

section Reading

variable {x : Binary64} {negative : Bool} {significand : Nat} {exponent : Int}

/-- A number is the one with its sign and its magnitude bits. -/
theorem ofMagnitude_bits (x : Binary64) :
    ofMagnitude (decide (signBit ≤ x.bits.toNat)) (x.bits.toNat % signBit) = x := by
  -- The sign bit stands above the magnitude, so the two are told apart by division.
  have small : x.bits.toNat < 2 * signBit := x.bits.toNat_lt
  have whole : (if decide (signBit ≤ x.bits.toNat) = true then signBit else 0) +
      x.bits.toNat % signBit = x.bits.toNat := by
    simp only [decide_eq_true_eq]
    split
    next high =>
      rw [Nat.mod_eq_sub_mod high, Nat.mod_eq_of_lt (by omega)]
      omega
    next low => rw [Nat.mod_eq_of_lt (by omega), Nat.zero_add]
  rw [ofMagnitude, whole]
  simp

/-- A finite number is read as a significand and an exponent as numbers have them, and is given back
by their bits. -/
theorem finite_of_reading (read : x.reading = .finite negative significand exponent) :
    Normal significand exponent ∧ magnitude significand exponent < infinityBits ∧
      ofMagnitude negative (magnitude significand exponent) = x := by
  have own := ofMagnitude_bits x
  unfold reading at read
  simp only at read
  generalize x.bits.toNat % signBit = bits at own read
  have split : bits / leadingBit * leadingBit + bits % leadingBit = bits :=
    Nat.div_add_mod' bits leadingBit
  have small : bits % leadingBit < leadingBit := Nat.mod_lt bits (by decide)
  generalize bits / leadingBit = field at split read
  generalize bits % leadingBit = fraction at split small read
  -- The bits of the field and of the fraction make up the magnitude.
  split_ifs at read with beyond infinite denormal
  · obtain ⟨rfl, rfl, rfl⟩ := by simpa using read
    have same : magnitude fraction lowestExponent = bits := by
      rw [← split, denormal, magnitude, sub_self, Int.toNat_zero]
    exact ⟨⟨le_rfl, by omega, fun lt => absurd lt (lt_irrefl _)⟩, by omega, same ▸ own⟩
  · obtain ⟨rfl, rfl, rfl⟩ := by simpa using read
    obtain ⟨before, rfl⟩ := Nat.exists_eq_succ_of_ne_zero denormal
    have step : ((before.succ : Int) + lowestExponent - 1 - lowestExponent).toNat = before := by
      omega
    have same : magnitude (leadingBit + fraction) ((before.succ : Int) + lowestExponent - 1) =
        bits := by
      rw [← split, magnitude, step, Nat.succ_mul, Nat.add_assoc]
    exact ⟨⟨by omega, by omega, fun _ => by omega⟩, by omega, same ▸ own⟩

/-- Every finite number has a significand and an exponent. -/
theorem reading_of_isFinite (finite : x.isFinite = true) :
    ∃ negative significand exponent, x.reading = .finite negative significand exponent := by
  have below : x.bits.toNat % signBit < infinityBits := by simpa [isFinite] using finite
  unfold reading
  simp only
  rw [if_neg (by omega), if_neg (by omega)]
  split <;> exact ⟨_, _, _, rfl⟩

/-- A number without significand is a zero. -/
theorem eq_zero_of_reading (read : x.reading = .finite negative 0 exponent) :
    x = zero negative := by
  obtain ⟨normal, -, same⟩ := finite_of_reading read
  -- Above the lowest exponent the significand has a leading bit, and zero has none.
  have lowest : exponent = lowestExponent := by
    by_contra other
    have leads := normal.leading (lt_of_le_of_ne normal.lowest (Ne.symm other))
    exact absurd leads (by decide)
  rw [← same, lowest, magnitude, sub_self]
  rfl

end Reading

end Reshape.Binary64
