import Reshape.Builtin.Numeric
import Reshape.Proofs.Number.Order
import Reshape.Proofs.Value.Arithmetic

/-!
Exact values. The exact value of a binary floating-point number is the fraction that the fields of
its bits stand for. A number is an integer just if this fraction is one, and every fraction that a
number has for its value is rounded to that number. A number of any kind is a signed integer of 64
bits just if its exact value is one. It is an unsigned integer just if its exact value is one, except
for the floating-point numbers from two to the 63 on, which are no signed integers and are not tried
as unsigned ones.
-/

namespace Reshape

namespace Binary64

/-- The exact value of a number. Below the sign there are eleven bits of exponent and 52 of
fraction; the greatest exponent is that of the infinities and of what is no number, and with the
least one there is no leading bit. -/
def fraction? (x : Binary64) : Option ℚ :=
  let bits := x.bits.toNat
  let sign : ℚ := if bits < 2 ^ 63 then 1 else -1
  let field : Nat := bits / 2 ^ 52 % 2 ^ 11
  let fraction : Nat := bits % 2 ^ 52
  if field = 2 ^ 11 - 1 then none
  else if field = 0 then some (sign * fraction * 2 ^ (-1074 : Int))
  else some (sign * (2 ^ 52 + fraction : Nat) * 2 ^ ((field : Int) - 1075))

/-- The exact value of what the bits of a number denote. -/
def Reading.fraction? : Reading → Option ℚ
  | .finite negative significand exponent =>
    some ((if negative then -1 else 1) * significand * 2 ^ exponent)
  | _ => none

/-- A number is read as what its fields stand for. -/
theorem fraction?_eq (x : Binary64) : x.fraction? = x.reading.fraction? := by
  have small : x.bits.toNat < 2 ^ 64 := x.bits.toNat_lt
  have sign : signBit = 2 ^ 63 := rfl
  have leading : leadingBit = 2 ^ 52 := rfl
  have infinite : infinityBits = 2047 * 2 ^ 52 := rfl
  unfold fraction? reading
  simp only [sign, leading, infinite, lowestExponent]
  generalize x.bits.toNat = bits at small
  -- The fields below the sign are the same with and without it.
  have field : bits % 2 ^ 63 / 2 ^ 52 = bits / 2 ^ 52 % 2 ^ 11 := by omega
  have fraction : bits % 2 ^ 63 % 2 ^ 52 = bits % 2 ^ 52 := by omega
  have turned : (if bits < 2 ^ 63 then (1 : ℚ) else -1) =
      if decide (2 ^ 63 ≤ bits) = true then -1 else 1 := by
    by_cases high : 2 ^ 63 ≤ bits
    · rw [if_neg (by omega), if_pos (by simpa using high)]
    · rw [if_pos (by omega), if_neg (by simpa using high)]
  rw [turned, field, fraction]
  by_cases beyond : 2047 * 2 ^ 52 < bits % 2 ^ 63
  · rw [if_pos (by omega), if_pos beyond]
    rfl
  by_cases infinity : bits % 2 ^ 63 = 2047 * 2 ^ 52
  · rw [if_pos (by omega), if_neg beyond, if_pos infinity]
    rfl
  rw [if_neg (by omega), if_neg beyond, if_neg infinity]
  by_cases denormal : bits / 2 ^ 52 % 2 ^ 11 = 0
  · rw [if_pos denormal, if_pos denormal]
    rfl
  · rw [if_neg denormal, if_neg denormal, Reading.fraction?]
    congr 3
    ring

section Integer

variable {x : Binary64} {negative : Bool} {significand : Nat} {exponent grid : Int} {n : Int}

/-- The units of a number on a finer grid. -/
theorem cast_onGrid (negative : Bool) (significand : Nat) (fine : grid ≤ exponent) :
    (onGrid negative significand exponent grid : ℚ) =
      (if negative then -1 else 1) * significand * 2 ^ (exponent - grid) := by
  obtain ⟨k, step⟩ : ∃ k : Nat, exponent - grid = k := ⟨(exponent - grid).toNat, by omega⟩
  simp only [onGrid, step, Int.toNat_natCast, Nat.shiftLeft_eq, zpow_natCast]
  split <;> push_cast <;> ring

/-- A number is an integer just if its exact value is one. -/
theorem toInt?_eq_some : x.toInt? = some n ↔ x.fraction? = some (n : ℚ) := by
  rw [fraction?_eq]
  unfold toInt?
  cases x.reading with
  | nan => simp [Reading.fraction?]
  | infinite negative => simp [Reading.fraction?]
  | finite negative significand exponent =>
    simp only [Reading.fraction?, Option.some.injEq]
    -- From the exponent zero on the number is whole, and below it only if the power divides the
    -- significand.
    by_cases whole : 0 ≤ exponent
    · rw [if_pos whole, Option.some.injEq, ← Int.cast_inj (α := ℚ), cast_onGrid _ _ whole, sub_zero]
    · obtain ⟨k, rfl⟩ : ∃ k : Nat, exponent = -k := ⟨(-exponent).toNat, by omega⟩
      have unit : (2 : ℚ) ^ k ≠ 0 := by positivity
      simp only [if_neg whole, neg_neg, Int.toNat_natCast, Nat.shiftLeft_eq, one_mul, zpow_neg,
        zpow_natCast, ← div_eq_mul_inv, div_eq_iff unit]
      split
      next divides =>
        obtain ⟨quotient, rfl⟩ := Nat.dvd_of_mod_eq_zero divides
        rw [Nat.mul_div_cancel_left _ (Nat.two_pow_pos k), Option.some.injEq,
          ← Int.cast_inj (α := ℚ), ← mul_left_inj' unit]
        push_cast
        split <;> constructor <;> intro same <;> linarith
      next rest =>
        refine iff_of_false (by simp) fun same => rest ?_
        -- The significand is then the integer times the power, up to the sign.
        have magnitude : (significand : ℚ) = (n.natAbs * 2 ^ k : Nat) := by
          have absolute := congrArg (fun value : ℚ => |value|) same
          cases negative <;> simpa [abs_mul, abs_pow, Nat.cast_natAbs] using absolute
        rw [Nat.cast_inj.1 magnitude, Nat.mul_mod_left]

/-- The value of a number itself rounds to it. -/
theorem roundsTo_self (significand : Nat) (exponent : Int) :
    RoundsTo significand exponent (significand * 2 ^ exponent) := by
  -- The interval of the number reaches half a unit, or at least a quarter, to each side.
  have unit : (2 : ℚ) ^ exponent ≠ 0 := by positivity
  have reaches : 0 < reach significand exponent := by
    unfold reach
    split <;> norm_num
  refine ⟨?_, ?_, fun _ => ⟨?_, ?_⟩⟩
  all_goals
    rw [mul_div_cancel_right₀ _ unit]
    linarith

/-- An integer that a sign and a positive magnitude make has this sign and this magnitude. -/
theorem sign_of_product {magnitude : ℚ} (above : 0 < magnitude)
    (product : (if negative then -1 else 1 : ℚ) * magnitude = n) :
    decide (n < 0) = negative ∧ (n.natAbs : ℚ) = magnitude := by
  rw [Nat.cast_natAbs, Int.cast_abs]
  -- The sign of the product is that of the first factor, as the second one is positive.
  cases negative with
  | false =>
    have equal : (n : ℚ) = magnitude := by simpa using product.symm
    have positive : 0 < n := by exact_mod_cast equal ▸ above
    exact ⟨by simpa using positive.le, by rw [equal, abs_of_pos above]⟩
  | true =>
    have equal : (n : ℚ) = -magnitude := by simpa using product.symm
    have below : n < 0 := by exact_mod_cast equal ▸ neg_lt_zero.2 above
    exact ⟨by simpa using below, by rw [equal, abs_neg, abs_of_pos above]⟩

/-- An integer that is the exact value of some number is rounded to a number of this value. -/
theorem fraction?_ofInt (value : x.fraction? = some (n : ℚ)) :
    (ofInt n).fraction? = some (n : ℚ) := by
  by_cases zero : n = 0
  · subst zero
    have read : (ofInt 0).reading = .finite false 0 lowestExponent := by decide
    rw [fraction?_eq, read]
    simp [Reading.fraction?]
  cases read : x.reading with
  | nan => simp [fraction?_eq, read, Reading.fraction?] at value
  | infinite negative => simp [fraction?_eq, read, Reading.fraction?] at value
  | finite negative significand exponent =>
    obtain ⟨normal, finite, same⟩ := finite_of_reading read
    have product : (if negative then -1 else 1 : ℚ) * (significand * 2 ^ exponent) = n := by
      rw [← mul_assoc]
      simpa [fraction?_eq, read, Reading.fraction?] using value
    have unit : (0 : ℚ) < 2 ^ exponent := by positivity
    have whole : (n : ℚ) ≠ 0 := by exact_mod_cast zero
    have nonzero : 0 < significand := by
      by_contra none
      obtain rfl : significand = 0 := by omega
      simp [← product] at whole
    have above : (0 : ℚ) < significand * 2 ^ exponent := by positivity
    obtain ⟨sign, magnitude⟩ := sign_of_product above product
    have rounds : RoundsTo significand exponent ((n.natAbs : ℚ) / (1 : Nat)) := by
      rw [magnitude, Nat.cast_one, div_one]
      exact roundsTo_self significand exponent
    -- The number that the integer is rounded to is the given one.
    have rounded : ofInt n = x := by
      rw [ofInt, ofQuotient_eq _ normal nonzero finite one_pos rounds, sign, same]
    rw [rounded, value]

end Integer

end Binary64

/-- The unsigned integer that an integer is. -/
theorem uint64?_eq_some {n : Int} {value : UInt64} :
    uint64? n = some value ↔ (value.toNat : Int) = n := by
  have small : value.toNat < 0x10000000000000000 := value.toNat_lt
  unfold uint64?
  split
  -- Within 64 bits the integer is kept, and outside no unsigned one is equal to it.
  next inside =>
    have same : (UInt64.ofNat n.toNat).toNat = n.toNat :=
      UInt64.toNat_ofNat_of_lt' (by simp only [UInt64.size]; omega)
    rw [Option.some.injEq, ← UInt64.toNat_inj, same]
    omega
  next outside => exact iff_of_false (by simp) fun found => outside (by omega)

namespace Value

/-- The exact value of a number of any kind. -/
def fraction? : Value → Option ℚ
  | .int value => some value.toInt
  | .uint value => some value.toNat
  | .float x => x.fraction?
  | _ => none

/-- A floating-point number that is an unsigned integer of 64 bits, but no signed one. -/
def IsHigh (value : Value) : Prop :=
  ∃ (x : Binary64) (n : UInt64),
    value = .float x ∧ x.fraction? = some (n.toNat : ℚ) ∧ 2 ^ 63 ≤ n.toNat

variable {value number : Value} {x : Binary64}

/-- A floating-point number is the signed integer that its exact value is. -/
theorem floatToInt?_eq_some {n : Int64} :
    floatToInt? x = some n ↔ x.fraction? = some (n.toInt : ℚ) := by
  simp only [floatToInt?, Option.bind_eq_some_iff, int64?_eq_some, exists_eq_right']
  exact Binary64.toInt?_eq_some

/-- A number is the signed integer that its exact value is. -/
theorem toInt64?_eq_some {n : Int64} :
    value.toInt64? = some n ↔ value.fraction? = some (n.toInt : ℚ) := by
  -- Each kind of number has an exact value of its own, which the conversion compares.
  cases value with
  | int given =>
    simp only [toInt64?, fraction?, Option.some.injEq, Int.cast_inj, Int64.toInt_inj]
  | uint given =>
    simp only [toInt64?, fraction?, int64?_eq_some, Option.some.injEq]
    rw [eq_comm]
    exact_mod_cast Iff.rfl
  | float x => exact floatToInt?_eq_some
  | _ => simp [toInt64?, fraction?]

/-- A floating-point number that is an unsigned integer is no signed one from two to the 63 on. -/
theorem isHigh_float {n : UInt64} (known : x.fraction? = some (n.toNat : ℚ)) :
    (Value.float x).IsHigh ↔ ¬IsInt64 n.toNat := by
  have small : n.toNat < 0x10000000000000000 := n.toNat_lt
  rw [isInt64_iff]
  -- What is high is an unsigned integer from two to the 63 on, and the other way round.
  constructor
  · rintro ⟨_, m, ⟨⟩, known', high⟩
    have same : m.toNat = n.toNat := by
      exact_mod_cast Option.some.inj (known'.symm.trans known)
    omega
  · intro beyond
    exact ⟨x, n, rfl, known, by omega⟩

/-- A number is the unsigned integer that its exact value is, unless it is a floating-point number
that is no signed integer. -/
theorem toUInt64?_eq_some {n : UInt64} :
    value.toUInt64? = some n ↔ value.fraction? = some (n.toNat : ℚ) ∧ ¬value.IsHigh := by
  -- Unsigned integers are reached through the signed ones only for floating-point numbers.
  cases value with
  | int given =>
    have other : ¬(Value.int given).IsHigh := by rintro ⟨_, _, ⟨⟩, _⟩
    simp only [toUInt64?, fraction?, uint64?_eq_some, Option.some.injEq, other, not_false_eq_true,
      and_true]
    rw [eq_comm]
    exact_mod_cast Iff.rfl
  | uint given =>
    have other : ¬(Value.uint given).IsHigh := by rintro ⟨_, _, ⟨⟩, _⟩
    simp only [toUInt64?, fraction?, Option.some.injEq, other, not_false_eq_true, and_true,
      Nat.cast_inj, UInt64.toNat_inj]
  | float x =>
    simp only [toUInt64?, Option.bind_eq_some_iff, floatToInt?_eq_some, uint64?_eq_some]
    constructor
    · rintro ⟨m, known, same⟩
      have known : x.fraction? = some (n.toNat : ℚ) := by
        rw [known, ← same]
        norm_cast
      exact ⟨known, fun high => (isHigh_float known).1 high ⟨m, same.symm⟩⟩
    · rintro ⟨known, low⟩
      rw [isHigh_float known, not_not] at low
      obtain ⟨m, same⟩ := low
      refine ⟨m, known.trans (congrArg some ?_), same.symm⟩
      rw [same, Int.cast_natCast]
  | _ => simp [toUInt64?, fraction?]

/-- A floating-point number is made an integer if its exact value is a signed one of 64 bits. -/
theorem ofFloat_eq_int {n : Int64} : ofFloat x = .int n ↔ x.fraction? = some (n.toInt : ℚ) := by
  rw [← floatToInt?_eq_some, ofFloat]
  cases floatToInt? x <;> simp

/-- A floating-point number that is no signed integer of 64 bits is left as it is. -/
theorem ofFloat_eq_float (other : ∀ n : Int64, x.fraction? ≠ some (n.toInt : ℚ)) :
    ofFloat x = .float x := by
  have none : floatToInt? x = none := by
    rw [Option.eq_none_iff_forall_ne_some]
    exact fun n found => other n (floatToInt?_eq_some.1 found)
  rw [ofFloat, none]

/-- A value is made an unsigned integer if the number that it is or writes is one. -/
theorem toUnsigned_of_toNumber? (given : value.toNumber? = some number) :
    value.toUnsigned = match number.toUInt64? with
      | some n => .ok (.uint n)
      | none => .error (.general (.inexact value "uint64")) := by
  rw [toUnsigned, toNumber, given]
  simp only [Bind.bind, Except.bind]
  cases number.toUInt64? <;> rfl

/-- A value is no unsigned integer just if an error says so. -/
theorem toUnsigned_eq_error (given : value.toNumber? = some number)
    (refused : number.toUInt64? = none) :
    value.toUnsigned = .error (.general (.inexact value "uint64")) := by
  rw [toUnsigned_of_toNumber? given, refused]

/-- The signed integer that a number is taken for is its exact value, and it is taken for one
whenever its exact value is one of 64 bits; so it is with unsigned integers, except for the
floating-point numbers that are no signed integers. Those are refused, also where a value is
converted. -/
theorem losslessViews_iff (value : Value) (x : Binary64) :
    (∀ n : Int64, value.toInt64? = some n ↔ value.fraction? = some (n.toInt : ℚ)) ∧
    ((∀ n : UInt64, value.toUInt64? = some n ↔ value.fraction? = some (n.toNat : ℚ)) ↔
      ¬value.IsHigh) ∧
    (value.IsHigh → value.toUInt64? = none) ∧
    (∀ n : Int64, ofFloat x = .int n ↔ x.fraction? = some (n.toInt : ℚ)) ∧
    ((∀ n : Int64, x.fraction? ≠ some (n.toInt : ℚ)) → ofFloat x = .float x) ∧
    ∀ number, value.toNumber? = some number →
      (∀ n : UInt64, value.toUnsigned = .ok (.uint n) ↔
        number.fraction? = some (n.toNat : ℚ) ∧ ¬number.IsHigh) ∧
      ((∀ n : UInt64, number.fraction? ≠ some (n.toNat : ℚ)) ∨ number.IsHigh →
        value.toUnsigned = .error (.general (.inexact value "uint64"))) := by
  -- Without an exact value in the range there is no view, and the view of what is high fails.
  have refused {number : Value}
      (beyond : (∀ n : UInt64, number.fraction? ≠ some (n.toNat : ℚ)) ∨ number.IsHigh) :
      number.toUInt64? = none := by
    rw [Option.eq_none_iff_forall_ne_some]
    intro n found
    obtain ⟨known, low⟩ := toUInt64?_eq_some.1 found
    rcases beyond with other | high
    · exact other n known
    · exact low high
  refine ⟨fun n => toInt64?_eq_some, ?_, fun high => refused (.inr high), fun n => ofFloat_eq_int,
    ofFloat_eq_float, fun number given => ⟨fun n => ?_, fun beyond =>
      toUnsigned_eq_error given (refused beyond)⟩⟩
  · constructor
    · rintro views ⟨x, n, rfl, known, high⟩
      exact (toUInt64?_eq_some.1 ((views n).2 known)).2 ⟨x, n, rfl, known, high⟩
    · intro low n
      rw [toUInt64?_eq_some, and_iff_left low]
  · rw [← toUInt64?_eq_some, toUnsigned_of_toNumber? given]
    cases number.toUInt64? <;> simp

section Sample

/-- Two to the 63, the least integer beyond the signed ones of 64 bits. -/
def limit : Binary64 := ⟨0x43E0000000000000⟩

/-- The exact value of the number is a power of two. -/
theorem fraction?_limit : limit.fraction? = some (2 ^ 63 : ℚ) := by
  have bits : limit.bits.toNat = 0x43E0000000000000 := rfl
  norm_num [Binary64.fraction?, bits]

/-- The exact value of the number is an unsigned integer. -/
theorem fraction?_limit_toNat :
    limit.fraction? = some ((0x8000000000000000 : UInt64).toNat : ℚ) := by
  have power : (0x8000000000000000 : UInt64).toNat = 2 ^ 63 := rfl
  rw [fraction?_limit, power]
  norm_num

/-- As a floating-point number it is an unsigned integer, but no signed one. -/
theorem isHigh_limit : (Value.float limit).IsHigh :=
  ⟨limit, 0x8000000000000000, rfl, fraction?_limit_toNat, by decide⟩

/-- Two to the 63 as a floating-point number is no unsigned integer for the program. -/
theorem losslessViews_iff_limit :
    ((Value.float limit).IsHigh ∧ (Value.float limit).toUInt64? = none) ∧
    ((∀ n : Int64, limit.fraction? ≠ some (n.toInt : ℚ)) ∧ ofFloat limit = .float limit) ∧
    (Value.float limit).toNumber? = some (.float limit) ∧
      (Value.float limit).toUnsigned = .error (.general (.inexact (.float limit) "uint64")) := by
  -- Two to the 63 is one more than the greatest signed integer.
  have beyond (n : Int64) : limit.fraction? ≠ some (n.toInt : ℚ) := by
    rw [fraction?_limit]
    intro same
    have equal : (2 : Int) ^ 63 = n.toInt := by exact_mod_cast Option.some.inj same
    have := n.toInt_lt
    omega
  have laws := losslessViews_iff (.float limit) limit
  exact ⟨⟨isHigh_limit, laws.2.2.1 isHigh_limit⟩, ⟨beyond, laws.2.2.2.2.1 beyond⟩, rfl,
    (laws.2.2.2.2.2 _ rfl).2 (.inr isHigh_limit)⟩

/-- Not every number whose exact value is an unsigned integer of 64 bits is taken for that. -/
theorem not_losslessViews :
    limit.fraction? = some ((0x8000000000000000 : UInt64).toNat : ℚ) ∧
      (Value.float limit).toUInt64? = none ∧
      ¬∀ (value : Value) (n : UInt64),
        value.toUInt64? = some n ↔ value.fraction? = some (n.toNat : ℚ) := by
  have none : (Value.float limit).toUInt64? = none := by decide
  refine ⟨fraction?_limit_toNat, none, fun views => ?_⟩
  cases none.symm.trans ((views (.float limit) _).2 fraction?_limit_toNat)

end Sample

end Value

end Reshape
