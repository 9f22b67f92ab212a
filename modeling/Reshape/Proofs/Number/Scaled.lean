import Reshape.Proofs.Number.Decimal
import Reshape.Proofs.Value.Exact

/-!
Decimals that are read as their digits times a power of ten. Where the digits and the power are
numbers themselves, only the product or the quotient is rounded, so that the decimal is read as the
number nearest to it; where they are not, it may be read as a neighbour of that.
-/

namespace Reshape

namespace Binary64

/-- A number that is not negative and has a fraction for its exact value. -/
def Denotes (x : Binary64) (q : ℚ) : Prop :=
  ∃ significand exponent, x.reading = .finite false significand exponent ∧
    (significand * 2 ^ exponent : ℚ) = q

section Denotes

variable {x y : Binary64} {p q : ℚ} {significand significand' : Nat} {exponent exponent' : Int}

/-- Numbers with the same magnitude bits have the same size. -/
theorem size_eq_of_magnitude (normal : Normal significand exponent)
    (normal' : Normal significand' exponent')
    (same : magnitude significand exponent = magnitude significand' exponent') :
    (significand * 2 ^ exponent : ℚ) = significand' * 2 ^ exponent' := by
  -- On the finer of the two grids neither has fewer units than the other one.
  have units : significand <<< (exponent - min exponent exponent').toNat =
      significand' <<< (exponent' - min exponent exponent').toNat := by
    have below := units_lt_iff normal normal' (min_le_left _ _) (min_le_right _ _)
    have above := units_lt_iff normal' normal (min_le_right _ _) (min_le_left _ _)
    omega
  generalize least : min exponent exponent' = grid at units
  obtain ⟨k, step⟩ : ∃ k : Nat, exponent = k + grid := ⟨(exponent - grid).toNat, by omega⟩
  obtain ⟨k', step'⟩ : ∃ k' : Nat, exponent' = k' + grid := ⟨(exponent' - grid).toNat, by omega⟩
  have whole : significand * 2 ^ k = significand' * 2 ^ k' := by
    simpa [step, step', Nat.shiftLeft_eq] using units
  have cast : (significand * 2 ^ k : ℚ) = significand' * 2 ^ k' := by exact_mod_cast whole
  rw [step, step', zpow_add₀ two_ne_zero, zpow_add₀ two_ne_zero, zpow_natCast, zpow_natCast,
    ← mul_assoc, ← mul_assoc, cast]

/-- The number of some magnitude bits has the significand and the exponent that they are made of, or
others of the same size. -/
theorem denotes_ofMagnitude (normal : Normal significand exponent) (nonzero : 0 < significand)
    (finite : magnitude significand exponent < infinityBits) :
    (ofMagnitude false (magnitude significand exponent)).Denotes (significand * 2 ^ exponent) := by
  have infinite : infinityBits < signBit := by decide
  have place := place_ofMagnitude false (finite.trans infinite)
  have positive : 0 < magnitude significand exponent := by
    unfold magnitude
    omega
  generalize ofMagnitude false (magnitude significand exponent) = x at place ⊢
  -- The place tells the bits below the sign, and that there is none.
  have bits : x.bits.toNat % signBit = magnitude significand exponent ∧
      ¬signBit ≤ x.bits.toNat := by
    unfold Binary64.place signed at place
    by_cases high : signBit ≤ x.bits.toNat
    · simp only [high, decide_true, if_true, Bool.false_eq_true, if_false] at place
      omega
    · simp only [high, decide_false, Bool.false_eq_true, if_false] at place
      exact ⟨by exact_mod_cast place, high⟩
  obtain ⟨negative, significand', exponent', read⟩ :=
    reading_of_isFinite (x := x) (by simpa [isFinite, bits.1] using finite)
  obtain ⟨normal', -, -⟩ := finite_of_reading read
  have other := place_of_finite read
  rw [place] at other
  cases negative with
  | true =>
    simp only [signed, Bool.false_eq_true, if_false, if_true] at other
    omega
  | false =>
    have same : magnitude significand' exponent' = magnitude significand exponent := by
      simpa [signed] using other.symm
    exact ⟨significand', exponent', read, size_eq_of_magnitude normal' normal same⟩

/-- A whole number of at most 53 bits is a number itself. -/
theorem denotes_ofInt {n : Nat} (small : n < 2 ^ 53) : (ofInt n).Denotes n := by
  -- Zero is a number by itself; any other whole number is brought on its grid.
  rcases Nat.eq_zero_or_pos n with rfl | above
  · have read : (ofInt (0 : Nat)).reading = .finite false 0 lowestExponent := by decide
    exact ⟨0, lowestExponent, read, by simp⟩
  obtain ⟨k, grid, fits⟩ := exists_gridExponent_whole above small
  obtain ⟨lowest, -, leading⟩ := gridExponent_spec above one_pos
  rw [grid] at lowest leading
  have width : leadingBit = 2 ^ 52 := rfl
  -- In units of the grid the number is a whole significand.
  have size : ((n * 2 ^ k : Nat) : ℚ) * 2 ^ (-(k : Int)) = n := by
    rw [zpow_neg, zpow_natCast]
    rw [Nat.cast_mul, Nat.cast_pow, Nat.cast_ofNat, mul_inv_cancel_right₀ (by positivity)]
  have normal : Normal (n * 2 ^ k) (-k) := by
    refine ⟨lowest, fits, fun higher => ?_⟩
    have least := leading higher
    rw [Nat.cast_one, div_one, ← size, zpow_add₀ two_ne_zero, mul_comm] at least
    have least := le_of_mul_le_mul_right least (by positivity)
    rw [width]
    exact_mod_cast least
  have nonzero : 0 < n * 2 ^ k := by positivity
  have finite : magnitude (n * 2 ^ k) (-k) < infinityBits := by
    have top : infinityBits = 2047 * leadingBit := rfl
    have field : (-(k : Int) - lowestExponent).toNat ≤ 1074 := by
      unfold lowestExponent
      omega
    have := Nat.mul_le_mul_right leadingBit field
    unfold magnitude
    omega
  -- A value on the grid rounds to itself, so that nothing is lost.
  have rounds : RoundsTo (n * 2 ^ k) (-k) ((n : ℚ) / (1 : Nat)) := by
    rw [Nat.cast_one, div_one, ← size]
    exact roundsTo_self _ _
  have same : ofInt n = ofMagnitude false (magnitude (n * 2 ^ k) (-k)) := by
    have sign : decide ((n : Int) < 0) = false := by simp
    rw [ofInt, Int.natAbs_natCast, sign, ofQuotient_eq _ normal nonzero finite one_pos rounds]
  rw [same, ← size]
  exact denotes_ofMagnitude normal nonzero finite

/-- The number nearest to a quotient depends on its value only. -/
theorem ofQuotient_congr (negative : Bool) {a b c d : Nat} (positive : 0 < b) (positive' : 0 < d)
    (same : (a / b : ℚ) = c / d) : ofQuotient negative a b = ofQuotient negative c d := by
  rw [ofQuotient_eq_ofMagnitude, ofQuotient_eq_ofMagnitude]
  exact congrArg _ (le_antisymm (nearestBits_mono positive positive' same.le)
    (nearestBits_mono positive' positive same.ge))

/-- The product of exact values is rounded once. -/
theorem mul_eq_ofQuotient (first : x.Denotes p) (second : y.Denotes q) {a b : Nat}
    (positive : 0 < b) (value : p * q = a / b) : x.mul y = ofQuotient false a b := by
  -- Significands are multiplied and exponents added, so that the product is exact before it is
  -- rounded.
  obtain ⟨m, e, read, rfl⟩ := first
  obtain ⟨n, f, read', rfl⟩ := second
  have product : ((m * n : Nat) : ℚ) / (1 : Nat) * 2 ^ (e + f) = a / b := by
    rw [← value, Nat.cast_one, div_one, zpow_add₀ two_ne_zero]
    push_cast
    ring
  rw [← div_scaled] at product
  simp only [mul, read, read']
  exact ofQuotient_congr false (scaled_pos one_pos _) positive product

/-- The quotient of exact values is rounded once. -/
theorem div_eq_ofQuotient (first : x.Denotes p) (second : y.Denotes q) (nonzero : q ≠ 0)
    {a b : Nat} (positive : 0 < b) (value : p / q = a / b) : x.div y = ofQuotient false a b := by
  -- Significands are divided and exponents subtracted, so that only the quotient itself is rounded.
  obtain ⟨m, e, read, rfl⟩ := first
  obtain ⟨n, f, read', rfl⟩ := second
  have divisor : n ≠ 0 := by
    rintro rfl
    exact nonzero (by simp)
  have quotient : (m / n : ℚ) * 2 ^ (e - f) = a / b := by
    rw [← value, zpow_sub₀ two_ne_zero]
    exact div_mul_div_comm _ _ _ _
  rw [← div_scaled] at quotient
  simp only [div, read, read', if_neg divisor]
  exact ofQuotient_congr false (scaled_pos (Nat.pos_of_ne_zero divisor) _) positive quotient

/-- The sign of the number nearest to a quotient is turned. -/
theorem neg_ofQuotient (a b : Nat) : (ofQuotient false a b).neg = ofQuotient true a b := by
  have bound := nearestBits_le a b
  have infinite : infinityBits < signBit := by decide
  have width := signBit_eq
  rw [ofQuotient_eq_ofMagnitude, ofQuotient_eq_ofMagnitude]
  generalize nearestBits a b = bits at bound
  have place := place_ofMagnitude false (show bits < signBit by omega)
  have own : (ofMagnitude false bits).bits.toNat = bits := by
    have small : bits < 18446744073709551616 := by omega
    simp [ofMagnitude, small]
  have turned : (⟨(bits + signBit).toUInt64⟩ : Binary64) = ofMagnitude true bits := by
    simp [ofMagnitude, Nat.add_comm]
  unfold neg
  cases read : (ofMagnitude false bits).reading with
  | nan =>
    have number := isNan_ofMagnitude false bound
    rw [reading_eq_nan.1 read] at number
    cases number
  | infinite negative =>
    -- Only the bits of infinity under this sign have its place.
    have top := place_of_infinite read
    rw [place] at top
    cases negative with
    | true =>
      have positive : 0 < infinityBits := by decide
      simp only [signed, Bool.false_eq_true, if_false, if_true] at top
      omega
    | false =>
      obtain rfl : bits = infinityBits := by simpa [signed] using top
      rfl
  | finite negative significand exponent =>
    simp only [own]
    rw [if_neg (by omega), turned]

end Denotes

end Binary64

namespace Decimal

open Binary64

/-- The digits and the power of ten of a decimal are numbers themselves. -/
structure Exact (decimal : Decimal) : Prop where
  digits : decimal.digits < 2 ^ 53
  least : -22 ≤ decimal.exponent
  greatest : decimal.exponent ≤ 22

/-- A decimal is short if it is exact in whichever layout it is written: also with the zeros that
fill up a whole number, and with the one that stands behind its point. -/
structure IsShort (decimal : Decimal) : Prop where
  digits : decimal.digits * 10 ^ (decimal.exponent.toNat + 1) < 2 ^ 53
  least : -22 ≤ decimal.exponent

/-- A short decimal is exact. -/
theorem IsShort.exact {decimal : Decimal} (positive : 0 < decimal.digits)
    (short : decimal.IsShort) : decimal.Exact := by
  have power : 0 < 10 ^ (decimal.exponent.toNat + 1) := by positivity
  have digits := Nat.le_mul_of_pos_right decimal.digits power
  -- Some digit is there, so that the power alone is no more than the product.
  have size := Nat.le_mul_of_pos_left (10 ^ (decimal.exponent.toNat + 1)) positive
  have steps : decimal.exponent.toNat + 1 < 16 := by
    refine (Nat.pow_lt_pow_iff_right (a := 10) (by decide)).1 ?_
    exact (size.trans_lt short.digits).trans (by decide)
  exact ⟨digits.trans_lt short.digits, short.least, by omega⟩

/-- The powers of ten up to the 22nd are numbers themselves. -/
theorem denotes_power {k : Nat} (small : k ≤ 22) : (power k).Denotes (10 ^ k) := by
  have each : ∀ k < 23, (power k).toInt? = some (Int.ofNat (Nat.pow 10 k)) := by decide +kernel
  have value := toInt?_eq_some.1 (each k (by omega))
  rw [fraction?_eq] at value
  cases read : (power k).reading with
  | nan => simp [read, Reading.fraction?] at value
  | infinite negative => simp [read, Reading.fraction?] at value
  | finite negative significand exponent =>
    simp only [read, Reading.fraction?, Option.some.injEq] at value
    -- A power of ten is not negative.
    have above : (0 : ℚ) < 10 ^ k := by positivity
    cases negative with
    | true =>
      have size : (0 : ℚ) ≤ significand * 2 ^ exponent := by positivity
      simp only [if_true, Int.ofNat_eq_natCast, Nat.pow_eq] at value
      push_cast at value
      linarith
    | false => exact ⟨significand, exponent, read, by simpa using value⟩

section Digits

variable {digits k : Nat}

/-- Digits are divided by a power of ten with one rounding. -/
theorem lowered_ofInt (small : digits < 2 ^ 53) (power : k ≤ 22) :
    lowered (ofInt digits) (k / greatestPower + 1) k = ofQuotient false digits (10 ^ k) := by
  -- A power in the table is divided by at once, and both operands are exact.
  have inside : k ≤ greatestPower := by
    unfold greatestPower
    omega
  rw [lowered, if_pos inside]
  refine div_eq_ofQuotient (denotes_ofInt small) (denotes_power power) ?_ ?_ ?_
  · positivity
  · positivity
  · rw [Nat.cast_pow, Nat.cast_ofNat]

/-- Digits are multiplied by a power of ten with one rounding. -/
theorem mul_power (small : digits < 2 ^ 53) (power : k ≤ 22) :
    (ofInt digits).mul (Decimal.power k) = ofQuotient false (digits * 10 ^ k) 1 := by
  refine mul_eq_ofQuotient (denotes_ofInt small) (denotes_power power) one_pos ?_
  rw [Nat.cast_mul, Nat.cast_pow, Nat.cast_ofNat, Nat.cast_one, div_one]

/-- Digits of 53 bits have sixteen places at most. -/
theorem digitCount_le (small : digits < 2 ^ 53) : digitCount digits ≤ 16 :=
  (Nat.length_toDigits_le_iff (by decide) (by decide)).2 (small.trans (by decide))

/-- A fraction with few places is read as the number nearest to it. -/
theorem toBinary64_fraction (negative : Bool) (small : digits < 2 ^ 53) (power : k ≤ 22) :
    toBinary64 negative ⟨digits, -k⟩ = ofQuotient negative digits (10 ^ k) := by
  rcases Nat.eq_zero_or_pos digits with rfl | above
  · rw [toBinary64, if_pos rfl, ofQuotient, if_pos rfl]
  have count := digitCount_le small
  rw [toBinary64, if_neg above.ne']
  simp only
  rw [if_neg (by omega), if_neg (by omega)]
  split
  next whole =>
    -- Only without places it is a whole number.
    obtain rfl : k = 0 := by omega
    simp
  next => rw [neg_neg, Int.toNat_natCast, Nat.pow_eq]

/-- A whole number with few zeros at its end is read as the number nearest to it. -/
theorem toBinary64_whole (negative : Bool) (small : digits < 2 ^ 53) (power : k ≤ 22) :
    toBinary64 negative ⟨digits, k⟩ = ofQuotient negative (digits * 10 ^ k) 1 := by
  -- Zero is told apart first; all others are in the range in which one product is exact.
  rcases Nat.eq_zero_or_pos digits with rfl | above
  · rw [toBinary64, if_pos rfl, ofQuotient, if_pos (Nat.zero_mul _)]
  have count := digitCount_le small
  rw [toBinary64, if_neg above.ne']
  simp only
  rw [if_neg (by omega), if_neg (by omega), if_pos (by omega), Int.toNat_natCast, Nat.pow_eq]

end Digits

/-- Where the digits and the power of ten are numbers themselves a decimal is read as the number
nearest to it. -/
theorem scaled_eq_toBinary64 (negative : Bool) {decimal : Decimal} (exact : decimal.Exact) :
    decimal.scaled negative = decimal.toBinary64 negative := by
  obtain ⟨digits, exponent⟩ := decimal
  obtain ⟨small, least, greatest⟩ := exact
  simp only at small least greatest
  -- Both are the same quotient rounded once, and the sign does not matter for the rounding.
  have signed (a b : Nat) : (if negative then (ofQuotient false a b).neg else ofQuotient false a b) =
      ofQuotient negative a b := by
    cases negative with
    | false => rw [if_neg Bool.false_ne_true]
    | true => rw [if_pos rfl, neg_ofQuotient]
  unfold scaled
  simp only
  by_cases down : exponent < 0
  · obtain ⟨k, rfl⟩ : ∃ k : Nat, exponent = -k := ⟨(-exponent).toNat, by omega⟩
    have power : k ≤ 22 := by omega
    rw [if_pos down, neg_neg, Int.toNat_natCast, lowered_ofInt small power, signed,
      toBinary64_fraction negative small power]
  · obtain ⟨k, rfl⟩ := Int.eq_ofNat_of_zero_le (not_lt.1 down)
    have power : k ≤ 22 := by omega
    have inside : (k : Int) ≤ greatestPower := by
      unfold greatestPower
      omega
    rw [if_neg down, if_pos inside, Int.toNat_natCast, mul_power small power, signed,
      toBinary64_whole negative small power]

end Decimal

end Reshape
