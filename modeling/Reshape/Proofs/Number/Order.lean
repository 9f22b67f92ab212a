import Mathlib.Algebra.Order.Ring.Int
import Mathlib.Order.Compare
import Mathlib.Tactic.Linarith
import Reshape.Proofs.Number.Binary64

/-!
The order of binary floating-point numbers. Read as whole numbers, the bits below the sign are in
the order of the magnitudes that they stand for, so that all numbers but those that are none have a
place among the integers. Rounding does not change the order of what is rounded: of two quotients
the greater one is rounded to no lesser number, and so of two integers.
-/

namespace Reshape

/-- Pairs that are in the same order compare alike. -/
theorem compare_congr {α β : Type} [LinearOrder α] [LinearOrder β] {a b : α} {c d : β}
    (less : a < b ↔ c < d) (greater : b < a ↔ d < c) : compare a b = compare c d := by
  -- The third case is the one in which neither is less.
  rcases lt_trichotomy a b with lt | rfl | gt
  · rw [compare_lt_iff_lt.2 lt, compare_lt_iff_lt.2 (less.1 lt)]
  · have same : c = d := le_antisymm (not_lt.1 fun lt => (greater.2 lt).false)
      (not_lt.1 fun lt => (less.2 lt).false)
    rw [compare_eq_iff_eq.2 rfl, compare_eq_iff_eq.2 same]
  · rw [compare_gt_iff_gt.2 gt, compare_gt_iff_gt.2 (greater.1 gt)]

namespace Binary64

/-- Whether the bits are those of no number. -/
def isNan (x : Binary64) : Bool :=
  decide (infinityBits < x.bits.toNat % signBit)

/-- Bits below the sign, counted down from zero if the sign is negative. -/
def signed (negative : Bool) (bits : Nat) : Int :=
  if negative then -bits else bits

/-- The place of a number among the integers. Zeros of both signs have the same place. -/
def place (x : Binary64) : Int :=
  signed (decide (signBit ≤ x.bits.toNat)) (x.bits.toNat % signBit)

section Place

variable {x y : Binary64} {negative : Bool} {bits : Nat}

/-- The sign is the highest of 64 bits. -/
theorem signBit_eq : signBit = 0x8000000000000000 := by
  decide

/-- The bits below the sign say where a number stands, and the sign on which side of zero. -/
theorem place_ofMagnitude (negative : Bool) (small : bits < signBit) :
    (ofMagnitude negative bits).place = signed negative bits := by
  have width := signBit_eq
  unfold place ofMagnitude
  -- Without the sign the bits are less than the sign bit, so both parts are read off again.
  cases negative with
  | false =>
    have own : bits.toUInt64.toNat = bits := by
      rw [Nat.toUInt64_eq, UInt64.toNat_ofNat_of_lt']
      simp only [UInt64.size]
      omega
    simp only [Bool.false_eq_true, if_false, Nat.zero_add, own]
    rw [Nat.mod_eq_of_lt small, decide_eq_false (by omega)]
  | true =>
    have own : (signBit + bits).toUInt64.toNat = signBit + bits := by
      rw [Nat.toUInt64_eq, UInt64.toNat_ofNat_of_lt']
      simp only [UInt64.size]
      omega
    simp only [if_true, own]
    rw [Nat.add_mod_left, Nat.mod_eq_of_lt small, decide_eq_true (by omega)]

/-- Bits up to those of infinity are bits of a number. -/
theorem isNan_ofMagnitude (negative : Bool) (small : bits ≤ infinityBits) :
    (ofMagnitude negative bits).isNan = false := by
  have width := signBit_eq
  have infinite : infinityBits < signBit := by decide
  have place := place_ofMagnitude negative (show bits < signBit by omega)
  -- The place tells the bits below the sign.
  have own : (ofMagnitude negative bits).bits.toNat % signBit = bits := by
    unfold Binary64.place signed at place
    split at place <;> split at place <;> omega
  simp only [isNan, own, decide_eq_false_iff_not]
  omega

/-- What is read as no number has bits above those of infinity. -/
theorem reading_eq_nan : x.reading = .nan ↔ x.isNan = true := by
  unfold reading isNan
  simp only [decide_eq_true_eq]
  split_ifs with beyond <;> simp [beyond]

/-- Infinity has the place of its bits. -/
theorem place_of_infinite (read : x.reading = .infinite negative) :
    x.place = signed negative infinityBits := by
  unfold reading at read
  simp only at read
  split_ifs at read with beyond infinite
  obtain rfl := Reading.infinite.inj read
  rw [place, infinite]

/-- A finite number has the place of its magnitude, which is before that of infinity. -/
theorem place_of_finite {significand : Nat} {exponent : Int}
    (read : x.reading = .finite negative significand exponent) :
    x.place = signed negative (magnitude significand exponent) := by
  obtain ⟨-, finite, same⟩ := finite_of_reading read
  have infinite : infinityBits < signBit := by decide
  rw [← place_ofMagnitude negative (finite.trans infinite), same]

end Place

section Compare

variable {x y : Binary64} {significand significand' : Nat} {exponent exponent' grid : Int}

/-- The magnitude bits of a significand with a leading bit are beyond those of all significands
with a lesser exponent. -/
theorem magnitude_le_of_exponent_lt (lowest : lowestExponent ≤ exponent)
    (less : exponent < exponent') (leading : leadingBit ≤ significand') :
    magnitude (2 * leadingBit) exponent ≤ magnitude significand' exponent' := by
  -- One exponent more doubles the unit, so that the leading bit outweighs the whole significand
  -- below.
  obtain ⟨k, step⟩ : ∃ k : Nat, exponent' = exponent + 1 + k :=
    ⟨(exponent' - exponent - 1).toNat, by omega⟩
  have field : (exponent' - lowestExponent).toNat = (exponent - lowestExponent).toNat + 1 + k := by
    omega
  simp only [magnitude, field, add_mul]
  omega

/-- Of two numbers the one with the greater exponent is the greater one, as it has a leading bit. -/
theorem lt_of_exponent_lt (normal : Normal significand exponent)
    (normal' : Normal significand' exponent') (fine : grid ≤ exponent)
    (less : exponent < exponent') :
    significand <<< (exponent - grid).toNat < significand' <<< (exponent' - grid).toNat ∧
      magnitude significand exponent < magnitude significand' exponent' := by
  have lowest := normal.lowest
  have below := normal.below
  have leading := normal'.leading (by omega)
  -- On a common grid the smaller number is below a power of two that the greater one reaches.
  constructor
  · rw [Nat.shiftLeft_eq, Nat.shiftLeft_eq]
    calc significand * 2 ^ (exponent - grid).toNat
        < 2 * leadingBit * 2 ^ (exponent - grid).toNat := by gcongr
      _ = leadingBit * 2 ^ ((exponent - grid).toNat + 1) := by rw [pow_succ]; ring
      _ ≤ significand' * 2 ^ (exponent' - grid).toNat :=
        Nat.mul_le_mul leading (Nat.pow_le_pow_right two_pos (by omega))
  · exact (Nat.add_lt_add_left below _).trans_le (magnitude_le_of_exponent_lt lowest less leading)

/-- On one grid the units of two numbers are in the order of their magnitude bits. -/
theorem units_lt_iff (normal : Normal significand exponent)
    (normal' : Normal significand' exponent') (fine : grid ≤ exponent) (fine' : grid ≤ exponent') :
    significand <<< (exponent - grid).toNat < significand' <<< (exponent' - grid).toNat ↔
      magnitude significand exponent < magnitude significand' exponent' := by
  rcases lt_trichotomy exponent exponent' with less | rfl | greater
  · obtain ⟨units, bits⟩ := lt_of_exponent_lt normal normal' fine less
    exact iff_of_true units bits
  · -- With one exponent the significands decide, in the units and in the bits.
    simp only [Nat.shiftLeft_eq, magnitude, Nat.mul_lt_mul_right (Nat.two_pow_pos _),
      Nat.add_lt_add_iff_left]
  · obtain ⟨units, bits⟩ := lt_of_exponent_lt normal' normal fine' greater
    exact iff_of_false units.asymm bits.asymm

/-- A number without units has no magnitude bits. -/
theorem units_eq_zero_iff (normal : Normal significand exponent) (grid : Int) :
    significand <<< (exponent - grid).toNat = 0 ↔ magnitude significand exponent = 0 := by
  rw [Nat.shiftLeft_eq, Nat.mul_eq_zero, magnitude]
  have width : leadingBit ≠ 0 := by decide
  have lowest := normal.lowest
  -- Without a significand the exponent is the lowest one.
  have leading := normal.leading
  constructor
  · rintro (none | power)
    · have : exponent = lowestExponent := by omega
      rw [this, sub_self, none]
      rfl
    · exact absurd power (Nat.two_pow_pos _).ne'
  · intro none
    exact .inl (by omega)

/-- Bits in the same order, and zero together, are in the same order under their signs. -/
theorem signed_lt_iff {a b c d : Nat} (less : a < b ↔ c < d) (greater : b < a ↔ d < c)
    (zero : a = 0 ↔ c = 0) (zero' : b = 0 ↔ d = 0) (negative negative' : Bool) :
    signed negative a < signed negative' b ↔ signed negative c < signed negative' d := by
  unfold signed
  split <;> split <;> omega

/-- Bits before those of infinity are between the infinities under either sign. -/
theorem signed_bounds {bits : Nat} (finite : bits < infinityBits) (negative : Bool) :
    signed true infinityBits < signed negative bits ∧
      signed negative bits < signed false infinityBits := by
  cases negative <;> simp only [signed, if_true, Bool.false_eq_true, if_false] <;> omega

/-- Numbers compare as their places do. -/
theorem compare_eq (number : x.isNan = false) (number' : y.isNan = false) :
    x.compare y = some (Ord.compare x.place y.place) := by
  have known : x.reading ≠ .nan := fun read => by simp [reading_eq_nan.1 read] at number
  have known' : y.reading ≠ .nan := fun read => by simp [reading_eq_nan.1 read] at number'
  unfold compare
  cases read : x.reading with
  | nan => exact absurd read known
  | infinite negative =>
    rw [place_of_infinite read]
    cases read' : y.reading with
    | nan => exact absurd read' known'
    | infinite negative' =>
      rw [place_of_infinite read']
      cases negative <;> cases negative' <;> decide
    | finite negative' significand' exponent' =>
      obtain ⟨-, finite, -⟩ := finite_of_reading read'
      obtain ⟨low, high⟩ := signed_bounds finite negative'
      rw [place_of_finite read']
      -- An infinity is beyond all finite numbers on its side.
      cases negative with
      | false => exact congrArg some (compare_gt_iff_gt.2 high).symm
      | true => exact congrArg some (compare_lt_iff_lt.2 low).symm
  | finite negative significand exponent =>
    obtain ⟨normal, finite, -⟩ := finite_of_reading read
    rw [place_of_finite read]
    cases read' : y.reading with
    | nan => exact absurd read' known'
    | infinite negative' =>
      obtain ⟨low, high⟩ := signed_bounds finite negative
      rw [place_of_infinite read']
      cases negative' with
      | false => exact congrArg some (compare_lt_iff_lt.2 high).symm
      | true => exact congrArg some (compare_gt_iff_gt.2 low).symm
    | finite negative' significand' exponent' =>
      obtain ⟨normal', -, -⟩ := finite_of_reading read'
      rw [place_of_finite read']
      have fine : min exponent exponent' ≤ exponent := min_le_left _ _
      have fine' : min exponent exponent' ≤ exponent' := min_le_right _ _
      have less := units_lt_iff normal normal' fine fine'
      have greater := units_lt_iff normal' normal fine' fine
      have zero := units_eq_zero_iff normal (min exponent exponent')
      have zero' := units_eq_zero_iff normal' (min exponent exponent')
      -- On either side of zero the order of the units is that of the bits.
      exact congrArg some (compare_congr (signed_lt_iff less greater zero zero' _ _)
        (signed_lt_iff greater less zero' zero _ _))

/-- All numbers but the zeros have places of their own. -/
theorem eq_of_place (same : x.place = y.place) (nonzero : x.place ≠ 0) : x = y := by
  rw [← ofMagnitude_bits x, ← ofMagnitude_bits y]
  unfold place signed at same nonzero
  -- Places on one side of zero, and only those, have one sign.
  by_cases high : signBit ≤ x.bits.toNat <;> by_cases high' : signBit ≤ y.bits.toNat <;>
    simp only [high, high', decide_true, decide_false, if_true, Bool.false_eq_true, if_false] at *
  · rw [show x.bits.toNat % signBit = y.bits.toNat % signBit by omega]
  · omega
  · omega
  · rw [show x.bits.toNat % signBit = y.bits.toNat % signBit by omega]

/-- Only what is no number has no order. -/
theorem compare_eq_none : x.compare y = none ↔ x.isNan = true ∨ y.isNan = true := by
  -- Among numbers the comparison is by place, which has an order always.
  constructor
  · intro none
    by_contra numbers
    rw [not_or, Bool.not_eq_true, Bool.not_eq_true] at numbers
    rw [compare_eq numbers.1 numbers.2] at none
    cases none
  · unfold compare
    rintro (unknown | unknown)
    · rw [reading_eq_nan.2 unknown]
    · rw [reading_eq_nan.2 unknown]
      cases x.reading <;> rfl

end Compare

section Rounding

variable {numerator denominator numerator' denominator' : Nat}

/-- The magnitude bits of the number nearest to a quotient. -/
def nearestBits (numerator denominator : Nat) : Nat :=
  if numerator = 0 then 0
  else
    let exponent := gridExponent numerator denominator
    let units := scaled numerator denominator (-exponent)
    min infinityBits (magnitude (roundedQuotient units.1 units.2) exponent)

/-- The number nearest to a quotient has its bits. -/
theorem ofQuotient_eq_ofMagnitude (negative : Bool) (numerator denominator : Nat) :
    ofQuotient negative numerator denominator =
      ofMagnitude negative (nearestBits numerator denominator) := by
  unfold ofQuotient nearestBits
  split <;> rfl

/-- No number nearest to a quotient is beyond infinity. -/
theorem nearestBits_le (numerator denominator : Nat) :
    nearestBits numerator denominator ≤ infinityBits := by
  unfold nearestBits
  split
  · exact Nat.zero_le _
  · exact min_le_left _ _

/-- A greater quotient is rounded to no lesser whole number. -/
theorem roundedQuotient_mono (positive : 0 < denominator) (positive' : 0 < denominator')
    (le : (numerator / denominator : ℚ) ≤ numerator' / denominator') :
    roundedQuotient numerator denominator ≤ roundedQuotient numerator' denominator' := by
  rw [div_le_div_iff₀ (by exact_mod_cast positive) (by exact_mod_cast positive')] at le
  have cross : numerator * denominator' ≤ numerator' * denominator := by exact_mod_cast le
  have least : numerator / denominator ≤ numerator' / denominator' := by
    rw [Nat.le_div_iff_mul_le positive']
    refine Nat.le_of_mul_le_mul_right ?_ positive
    calc numerator / denominator * denominator' * denominator
        = numerator / denominator * denominator * denominator' := by ring
      _ ≤ numerator * denominator' := Nat.mul_le_mul_right _ (Nat.div_mul_le_self _ _)
      _ ≤ numerator' * denominator := cross
  have split := Nat.div_add_mod numerator denominator
  have split' := Nat.div_add_mod numerator' denominator'
  unfold roundedQuotient
  generalize numerator / denominator = quotient at *
  generalize numerator' / denominator' = quotient' at *
  generalize numerator % denominator = remainder at *
  generalize numerator' % denominator' = remainder' at *
  rcases least.lt_or_eq with less | rfl
  · -- Each is rounded at most to the next whole number.
    simp only
    split_ifs <;> omega
  · have rest : remainder * denominator' ≤ remainder' * denominator := by
      rw [← split, ← split'] at cross
      linarith
    have doubled : 2 * remainder * denominator' ≤ denominator * (2 * remainder') := by
      calc 2 * remainder * denominator' = 2 * (remainder * denominator') := by ring
        _ ≤ 2 * (remainder' * denominator) := Nat.mul_le_mul_left _ rest
        _ = denominator * (2 * remainder') := by ring
    -- With one whole part, the one whose rest is at least a half is rounded up first.
    have half (reached : denominator ≤ 2 * remainder) : denominator' ≤ 2 * remainder' :=
      Nat.le_of_mul_le_mul_left ((Nat.mul_le_mul_right _ reached).trans doubled) positive
    have more (passed : denominator < 2 * remainder) : denominator' < 2 * remainder' :=
      Nat.lt_of_mul_lt_mul_left
        ((Nat.mul_lt_mul_of_pos_right passed positive').trans_le doubled)
    simp only
    split_ifs <;> omega

/-- A whole number is rounded to itself. -/
theorem roundedQuotient_whole (whole : Nat) : roundedQuotient whole 1 = whole := by
  simp [roundedQuotient, Nat.mod_one]

/-- The rounded significand of a quotient has at most 53 bits or is the power of two after those,
and has as many unless the exponent is the lowest one. -/
theorem roundedQuotient_bounds (above : 0 < numerator) (positive : 0 < denominator) :
    let exponent := gridExponent numerator denominator
    let units := scaled numerator denominator (-exponent)
    roundedQuotient units.1 units.2 ≤ 2 * leadingBit ∧
      (lowestExponent < exponent → leadingBit ≤ roundedQuotient units.1 units.2) := by
  obtain ⟨-, below, leading⟩ := gridExponent_spec above positive
  have value := div_scaled numerator denominator (-gridExponent numerator denominator)
  have positive' : 0 < (scaled numerator denominator (-gridExponent numerator denominator)).2 :=
    scaled_pos positive _
  generalize gridExponent numerator denominator = exponent at *
  have unit : (0 : ℚ) < 2 ^ exponent := by positivity
  have bits := cast_leadingBit
  rw [zpow_neg, ← div_eq_mul_inv] at value
  rw [zpow_add₀ two_ne_zero, mul_comm, ← div_lt_iff₀ unit] at below
  -- The exact quotient is within these bounds, and rounding keeps them, as both are whole numbers.
  constructor
  · rw [← roundedQuotient_whole (2 * leadingBit)]
    refine roundedQuotient_mono positive' one_pos ?_
    rw [value]
    push_cast
    norm_num at below ⊢
    linarith
  · intro normal
    have least := leading normal
    rw [zpow_add₀ two_ne_zero, mul_comm, ← le_div_iff₀ unit] at least
    rw [← roundedQuotient_whole leadingBit]
    refine roundedQuotient_mono one_pos positive' ?_
    rw [value]
    norm_num at least ⊢
    linarith

/-- A greater quotient has no finer grid. -/
theorem gridExponent_mono (above : 0 < numerator) (positive : 0 < denominator)
    (above' : 0 < numerator') (positive' : 0 < denominator')
    (le : (numerator / denominator : ℚ) ≤ numerator' / denominator') :
    gridExponent numerator denominator ≤ gridExponent numerator' denominator' := by
  obtain ⟨-, -, leading⟩ := gridExponent_spec above positive
  obtain ⟨lowest, below, -⟩ := gridExponent_spec above' positive'
  -- A finer grid for the greater quotient would put it below a power that the smaller one reaches.
  by_contra finer
  have powers : (2 : ℚ) ^ (gridExponent numerator denominator + 52) <
      2 ^ (gridExponent numerator' denominator' + 53) :=
    ((leading (by omega)).trans le).trans_lt below
  have := (zpow_lt_zpow_iff_right₀ one_lt_two).1 powers
  omega

/-- A greater quotient is rounded to no lesser number. -/
theorem nearestBits_mono (positive : 0 < denominator) (positive' : 0 < denominator')
    (le : (numerator / denominator : ℚ) ≤ numerator' / denominator') :
    nearestBits numerator denominator ≤ nearestBits numerator' denominator' := by
  rcases Nat.eq_zero_or_pos numerator with rfl | above
  · simp [nearestBits]
  have size : (0 : ℚ) < denominator := by exact_mod_cast positive
  have size' : (0 : ℚ) < denominator' := by exact_mod_cast positive'
  have above' : 0 < numerator' := by
    have : (0 : ℚ) < numerator' / denominator' :=
      (div_pos (by exact_mod_cast above) size).trans_le le
    exact_mod_cast (div_pos_iff_of_pos_right size').1 this
  have grid := gridExponent_mono above positive above' positive' le
  obtain ⟨lowest, -, -⟩ := gridExponent_spec above positive
  obtain ⟨greatest, -⟩ := roundedQuotient_bounds above positive
  obtain ⟨-, leading⟩ := roundedQuotient_bounds above' positive'
  unfold nearestBits
  rw [if_neg above.ne', if_neg above'.ne']
  refine min_le_min_left _ ?_
  rcases grid.lt_or_eq with finer | same
  · -- The significand on the finer grid does not reach beyond the leading bit of the coarser one.
    exact (Nat.add_le_add_left greatest _).trans
      (magnitude_le_of_exponent_lt lowest finer (leading (by omega)))
  · rw [← same]
    refine Nat.add_le_add_left (roundedQuotient_mono ?_ ?_ ?_) _
    · exact scaled_pos positive _
    · exact scaled_pos positive' _
    · rw [div_scaled, div_scaled]
      gcongr

/-- A greater whole number is rounded to no lesser number. -/
theorem nearestBits_whole_mono {a b : Nat} (le : a ≤ b) : nearestBits a 1 ≤ nearestBits b 1 := by
  refine nearestBits_mono one_pos one_pos ?_
  rw [Nat.cast_one, div_one, div_one]
  exact_mod_cast le

/-- An integer is rounded to a number. -/
theorem isNan_ofInt (n : Int) : (ofInt n).isNan = false := by
  rw [ofInt, ofQuotient_eq_ofMagnitude]
  exact isNan_ofMagnitude _ (nearestBits_le _ _)

/-- An integer has the place of what it is rounded to. -/
theorem place_ofInt (n : Int) :
    (ofInt n).place = signed (decide (n < 0)) (nearestBits n.natAbs 1) := by
  have infinite : infinityBits < signBit := by decide
  rw [ofInt, ofQuotient_eq_ofMagnitude]
  exact place_ofMagnitude _ ((nearestBits_le _ _).trans_lt infinite)

/-- Only zero is rounded to zero. -/
theorem place_ofInt_ne_zero {n : Int} (nonzero : n ≠ 0) : (ofInt n).place ≠ 0 := by
  have one : 0 < nearestBits 1 1 := by decide
  have least : nearestBits 1 1 ≤ nearestBits n.natAbs 1 := nearestBits_whole_mono (by omega)
  rw [place_ofInt]
  unfold signed
  split <;> omega

/-- A greater integer is rounded to no lesser number. -/
theorem place_ofInt_mono {m n : Int} (le : m ≤ n) : (ofInt m).place ≤ (ofInt n).place := by
  rw [place_ofInt, place_ofInt]
  unfold signed
  -- Below zero the greater integer has the lesser magnitude.
  by_cases negative : n < 0
  · have := nearestBits_whole_mono (show n.natAbs ≤ m.natAbs by omega)
    rw [if_pos (by simp; omega), if_pos (by simpa using negative)]
    omega
  · by_cases negative' : m < 0
    · rw [if_pos (by simpa using negative'), if_neg (by simpa using negative)]
      omega
    · have := nearestBits_whole_mono (show m.natAbs ≤ n.natAbs by omega)
      rw [if_neg (by simpa using negative'), if_neg (by simpa using negative)]
      omega

/-- A whole number on a finer grid is that many units of it. -/
theorem roundedQuotient_scaled (whole k : Nat) :
    roundedQuotient (scaled whole 1 k).1 (scaled whole 1 k).2 = whole * 2 ^ k := by
  rw [scaled, if_pos (by omega), roundedQuotient_whole, Nat.shiftLeft_eq, Int.toNat_natCast]

/-- Below two to the 53 the grid has all whole numbers, and their units fit the significand. -/
theorem exists_gridExponent_whole {a : Nat} (above : 0 < a) (small : a < 2 ^ 53) :
    ∃ k : Nat, gridExponent a 1 = -k ∧ a * 2 ^ k < 2 * leadingBit := by
  obtain ⟨lowest, below, leading⟩ := gridExponent_spec above one_pos
  rw [Nat.cast_one, div_one] at below leading
  -- A coarser grid than that of the whole numbers would ask for more than 53 bits.
  have fine : gridExponent a 1 ≤ 0 := by
    by_contra coarse
    have first := leading (by unfold lowestExponent; omega)
    have last : (a : ℚ) < 2 ^ (53 : Int) := by exact_mod_cast small
    have := (zpow_lt_zpow_iff_right₀ one_lt_two).1 (first.trans_lt last)
    omega
  obtain ⟨k, step⟩ : ∃ k : Nat, gridExponent a 1 = -k := ⟨(-gridExponent a 1).toNat, by omega⟩
  refine ⟨k, step, ?_⟩
  -- In units of the grid the number is below two to the 53.
  rw [step, zpow_add₀ two_ne_zero, zpow_neg, zpow_natCast] at below
  have unit : (0 : ℚ) < 2 ^ k := by positivity
  have short : (a * 2 ^ k : ℚ) < 2 ^ (53 : Int) := by
    calc (a * 2 ^ k : ℚ) < (2 ^ k)⁻¹ * 2 ^ (53 : Int) * 2 ^ k := by gcongr
      _ = 2 ^ (53 : Int) := by field_simp
  have width : (2 ^ 53 : Nat) = 2 * leadingBit := by decide
  rw [← width]
  exact_mod_cast short

/-- Up to two to the 53 all whole numbers are kept apart. -/
theorem nearestBits_strict {a b : Nat} (less : a < b) (small : b ≤ 2 ^ 53) :
    nearestBits a 1 < nearestBits b 1 := by
  rcases Nat.eq_zero_or_pos a with rfl | above
  · have one : 0 < nearestBits 1 1 := by decide
    exact one.trans_le (nearestBits_whole_mono less)
  obtain ⟨lowest, -, -⟩ := gridExponent_spec above one_pos
  obtain ⟨-, leading⟩ := roundedQuotient_bounds (above.trans less) one_pos
  have grid := gridExponent_mono above one_pos (above.trans less) one_pos
    (by simpa using less.le)
  obtain ⟨k, step, short⟩ := exists_gridExponent_whole above (less.trans_le small)
  have units (whole : Nat) : roundedQuotient (scaled whole 1 (-gridExponent a 1)).1
      (scaled whole 1 (-gridExponent a 1)).2 = whole * 2 ^ k := by
    rw [step, neg_neg, roundedQuotient_scaled]
  -- The lesser one is rounded to a finite number, so that it is not cut off.
  have finite : magnitude (a * 2 ^ k) (gridExponent a 1) < infinityBits := by
    have field : (gridExponent a 1 - lowestExponent).toNat ≤ 1074 := by
      unfold lowestExponent
      omega
    have infinite : 1076 * leadingBit < infinityBits := by decide
    calc magnitude (a * 2 ^ k) (gridExponent a 1)
        ≤ 1074 * leadingBit + 2 * leadingBit := by unfold magnitude; gcongr
      _ < infinityBits := by omega
  unfold nearestBits
  rw [if_neg above.ne', if_neg (above.trans less).ne']
  simp only [units]
  rw [min_eq_right finite.le, lt_min_iff]
  refine ⟨finite, ?_⟩
  rcases grid.lt_or_eq with finer | same
  · exact (Nat.add_lt_add_left short _).trans_le
      (magnitude_le_of_exponent_lt lowest finer (leading (by omega)))
  · rw [← same, units]
    exact Nat.add_lt_add_left (Nat.mul_lt_mul_of_pos_right less (Nat.two_pow_pos k)) _

/-- Integers up to two to the 53 on either side of zero are kept apart. -/
theorem ofInt_injective {m n : Int} (small : m.natAbs ≤ 2 ^ 53) (small' : n.natAbs ≤ 2 ^ 53)
    (same : ofInt m = ofInt n) : m = n := by
  have places := congrArg place same
  rw [place_ofInt, place_ofInt] at places
  have apart := nearestBits_strict (a := m.natAbs) (b := n.natAbs)
  have apart' := nearestBits_strict (a := n.natAbs) (b := m.natAbs)
  have zero : nearestBits 0 1 = 0 := by decide
  have above := nearestBits_strict (a := 0) (b := m.natAbs)
  have above' := nearestBits_strict (a := 0) (b := n.natAbs)
  unfold signed at places
  -- The magnitudes are the same, and the signs are unless both are zero.
  have magnitudes : m.natAbs = n.natAbs := by
    split at places <;> split at places <;> omega
  split at places <;> split at places <;> simp only [decide_eq_true_eq] at * <;> omega

end Rounding

end Binary64

end Reshape
