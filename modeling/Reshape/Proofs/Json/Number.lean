import Reshape.Json.Reader
import Reshape.Json.Writer
import Reshape.Proofs.Number.Scaled

/-!
JSON numbers as they are read from their own texts. Whole numbers of 64 bits are read as themselves.
A floating-point number is read as some number or refused, whatever stands behind its text, and as
itself if its shortest decimal has few digits, in every layout that it is written in; with more
digits it may be read as a neighbour.
-/

namespace Reshape.Json

/-- A text does not go on with digits. -/
def EndsDigits (rest : List Char) : Prop := ∀ c ∈ rest.head?, c.isDigit = false

/-- A text does not go on with a number. -/
def EndsNumber (rest : List Char) : Prop :=
  ∀ c ∈ rest.head?, c.isDigit = false ∧ c ≠ '.' ∧ c ≠ 'e' ∧ c ≠ 'E'

/-- What does not go on with a number does not go on with digits. -/
theorem EndsNumber.digits {rest : List Char} (ends : EndsNumber rest) : EndsDigits rest :=
  fun c head => (ends c head).1

section Digits

variable {digits rest : List Char}

/-- Digits are taken up to where they end. -/
theorem takeWhile_digits (each : ∀ c ∈ digits, c.isDigit = true) (ends : EndsDigits rest) :
    (digits ++ rest).takeWhile Char.isDigit = digits := by
  rw [List.takeWhile_append_of_pos each]
  cases rest with
  | nil => simp
  | cons c rest => simp [ends c rfl]

/-- What follows digits is left. -/
theorem dropWhile_digits (each : ∀ c ∈ digits, c.isDigit = true) (ends : EndsDigits rest) :
    (digits ++ rest).dropWhile Char.isDigit = rest := by
  rw [List.dropWhile_append_of_pos each]
  cases rest with
  | nil => simp
  | cons c rest => simp [ends c rfl]

/-- Digits are read on to a number as in the core library. -/
theorem accumulate_eq (value : Nat) (digits : List Char) :
    Numeral.accumulate value digits = Nat.ofDigitChars 10 digits value := by
  simp [Numeral.accumulate, Nat.ofDigitChars_eq_foldl, Nat.mul_comm]

/-- Digits are read one part after the other. -/
theorem accumulate_append (value : Nat) (first second : List Char) :
    Numeral.accumulate value (first ++ second) =
      Numeral.accumulate (Numeral.accumulate value first) second := by
  simp [Numeral.accumulate]

/-- The digits of a whole number are read as the number. -/
theorem accumulate_toDigits (n : Nat) : Numeral.accumulate 0 (Nat.toDigits 10 n) = n := by
  rw [accumulate_eq, Nat.ofDigitChars_ten_toDigits]

/-- The digits of a whole number are digits. -/
theorem isDigit_toDigits {n : Nat} : ∀ c ∈ Nat.toDigits 10 n, c.isDigit = true :=
  fun _ member => Nat.isDigit_of_mem_toDigits (by decide) (by decide) member

/-- A positive whole number does not start with a zero. -/
theorem head?_toDigits {n : Nat} (positive : 0 < n) : (Nat.toDigits 10 n).head? ≠ some '0' := by
  induction n using Nat.base_induction 10 (by decide) with
  | single m small => simpa [Nat.toDigits_of_lt_base small] using positive.ne'
  | digit m k small above ih =>
    rw [← Nat.toDigits_append_toDigits (by decide) above small,
      List.head?_append_of_ne_nil _ Nat.toDigits_ne_nil]
    exact ih above

/-- Reading digits on makes no number smaller. -/
theorem le_accumulate (value : Nat) (digits : List Char) :
    value ≤ Numeral.accumulate value digits := by
  induction digits generalizing value with
  | nil => exact Nat.le_refl _
  | cons c digits ih =>
    have onward := ih (value * 10 + (c.toNat - '0'.toNat))
    -- The value so far is multiplied before the next digit is added.
    have step : Numeral.accumulate value (c :: digits) =
        Numeral.accumulate (value * 10 + (c.toNat - '0'.toNat)) digits := rfl
    omega

/-- A significand of 64 bits has all digits. -/
theorem significand_eq {value : Nat}
    (small : Numeral.accumulate value digits < 0x10000000000000000) :
    Numeral.significand value digits = (Numeral.accumulate value digits, 0) := by
  -- What is read so far is never more than the whole, so that no digit is the first too much.
  induction digits generalizing value with
  | nil => rfl
  | cons c digits ih =>
    have step : Numeral.accumulate value (c :: digits) =
        Numeral.accumulate (value * 10 + (c.toNat - '0'.toNat)) digits := rfl
    rw [step] at small ⊢
    have inside := (le_accumulate (value * 10 + (c.toNat - '0'.toNat)) digits).trans_lt small
    rw [Numeral.significand]
    simp only [if_pos inside]
    exact ih small

/-- No digit of a decimal is left out if all of them are a significand of 64 bits. -/
theorem clipped_eq {whole fraction : List Char} (exponent : Int)
    (small : Numeral.accumulate (Numeral.accumulate 0 whole) fraction < 0x10000000000000000) :
    Numeral.clipped whole fraction exponent = Numeral.decimal whole fraction exponent := by
  have first := (le_accumulate (Numeral.accumulate 0 whole) fraction).trans_lt small
  simp [Numeral.clipped, Numeral.decimal, significand_eq first, significand_eq small]

end Digits

section Tail

variable {negative : Bool} {whole fraction digits rest : List Char}

/-- A floating-point number with what follows it, if it is finite. -/
def finite? (x : Binary64) (rest : List Char) : Option (Json × List Char) :=
  if x.isFinite then some (.float x, rest) else none

/-- The point with the digits behind it; without digits there is no point. -/
def pointed (fraction : List Char) : List Char :=
  if fraction = [] then [] else '.' :: fraction

/-- Whole digits that are followed by neither point nor exponent are a whole number. -/
theorem numberTail_whole (ends : EndsNumber rest) :
    numberTail negative whole rest =
      match wholeNumber negative whole with
      | .float x => finite? x rest
      | other => some (other, rest) := by
  -- At the end of the text nothing follows, and another letter is neither point nor exponent.
  cases rest with
  | nil =>
    cases number : wholeNumber negative whole <;>
      simp [numberTail, fractionPart, exponentPart, number, finite?]
  | cons c rest =>
    obtain ⟨-, point, lower, upper⟩ := ends c rfl
    cases number : wholeNumber negative whole <;>
      simp [numberTail, fractionPart, exponentPart, number, point, lower, upper, finite?]

/-- A point with digits behind it is read up to where the number ends. -/
theorem numberTail_pointed (each : ∀ c ∈ fraction, c.isDigit = true) (nonempty : fraction ≠ [])
    (ends : EndsNumber rest) :
    numberTail negative whole ('.' :: (fraction ++ rest)) =
      finite? ((Numeral.clipped whole fraction 0).scaled negative) rest := by
  -- The digits behind the point are taken up to the end of the number.
  have taken := takeWhile_digits each ends.digits
  have left := dropWhile_digits each ends.digits
  cases rest with
  | nil =>
    rw [List.append_nil] at taken left ⊢
    simp [numberTail, fractionPart, exponentPart, taken, left, nonempty, finite?]
  | cons c rest =>
    obtain ⟨-, -, lower, upper⟩ := ends c rfl
    simp [numberTail, fractionPart, exponentPart, taken, left, nonempty, lower, upper, finite?]

/-- An exponent as a text behind its mark, always with a sign. -/
def scale (exponent : Int) : List Char :=
  (if exponent < 0 then '-' else '+') :: Nat.toDigits 10 exponent.natAbs

/-- An exponent is read up to where its digits end. -/
theorem exponentDigits_scale (exponent : Int) (ends : EndsDigits rest) :
    exponentDigits (scale exponent ++ rest) = some (exponent, rest) := by
  -- The sign stands before the digits of the absolute value.
  have taken := takeWhile_digits (isDigit_toDigits (n := exponent.natAbs)) ends
  have left := dropWhile_digits (isDigit_toDigits (n := exponent.natAbs)) ends
  unfold scale
  split
  next down =>
    have size : (exponent.natAbs : Int) = -exponent := by omega
    simp [exponentDigits, Numeral.signed, taken, left, accumulate_toDigits, size]
  next up =>
    have size : (exponent.natAbs : Int) = exponent := by omega
    simp [exponentDigits, Numeral.signed, taken, left, accumulate_toDigits, size]

/-- An exponent is read behind the digits of a number. -/
theorem numberTail_scaled (each : ∀ c ∈ fraction, c.isDigit = true) (exponent : Int)
    (ends : EndsDigits rest) :
    numberTail negative whole (pointed fraction ++ 'e' :: (scale exponent ++ rest)) =
      finite? ((Numeral.clipped whole fraction exponent).scaled negative) rest := by
  -- The digits behind the point stop at the mark of the exponent, if there are any.
  have scaled := exponentDigits_scale exponent ends
  by_cases none : fraction = []
  · subst none
    simp [numberTail, fractionPart, exponentPart, pointed, scaled, finite?]
  · have marked : EndsDigits ('e' :: (scale exponent ++ rest)) := by simp [EndsDigits]
    have taken := takeWhile_digits each marked
    have left := dropWhile_digits each marked
    simp [numberTail, fractionPart, exponentPart, pointed, none, taken, left, scaled, finite?]

/-- A number that does not start with a zero is read with all its whole digits. -/
theorem number_of_digits (each : ∀ c ∈ whole, c.isDigit = true) (nonempty : whole ≠ [])
    (nonzero : whole.head? ≠ some '0') (ends : EndsDigits rest) :
    number negative (whole ++ rest) = numberTail negative whole rest := by
  -- The whole digits are taken up to the first other letter.
  have taken := takeWhile_digits each ends
  have left := dropWhile_digits each ends
  cases whole with
  | nil => exact absurd rfl nonempty
  | cons c whole =>
    -- A leading zero would end the whole digits at once.
    have other : c ≠ '0' := by simpa using nonzero
    unfold number
    split
    next same =>
      rw [List.cons_append, List.cons.injEq] at same
      exact absurd same.1 other
    next =>
      rw [taken, left]
      simp

/-- A number that starts with a zero has no other whole digit. -/
theorem number_of_zero (ends : EndsDigits rest) :
    number negative ('0' :: rest) = numberTail negative ['0'] rest := by
  cases rest with
  | nil => rfl
  | cons c rest => simp [number, ends c rfl]

/-- A whole number of 64 bits is read as itself; zero has no minus. -/
theorem number_toDigits {n : Nat} (ends : EndsNumber rest)
    (small : if negative then n ≤ 0x8000000000000000 else n < 0x10000000000000000)
    (nonzero : negative = true → n ≠ 0) :
    number negative (Nat.toDigits 10 n ++ rest) =
      some (.integer (if negative then -n else n), rest) := by
  -- The number fits 64 bits, and zero stands without a minus.
  have whole : wholeNumber negative (Nat.toDigits 10 n) =
      .integer (if negative then -n else n) := by
    cases negative with
    | false =>
      simp only [Bool.false_eq_true, if_false] at small
      simp [wholeNumber, accumulate_toDigits, small]
    | true =>
      simp only [if_true] at small
      simp [wholeNumber, accumulate_toDigits, nonzero rfl]
      omega
  have tail : numberTail negative (Nat.toDigits 10 n) rest =
      some (.integer (if negative then -n else n), rest) := by
    rw [numberTail_whole ends, whole]
  -- Zero is read as a single digit, and other numbers with all of theirs.
  rcases Nat.eq_zero_or_pos n with rfl | positive
  · rw [Nat.toDigits_zero] at tail ⊢
    rw [List.singleton_append, number_of_zero ends.digits, tail]
  · rw [number_of_digits isDigit_toDigits Nat.toDigits_ne_nil (head?_toDigits positive) ends.digits,
      tail]

end Tail

section Decimal

variable {negative : Bool} {decimal : Decimal} {rest : List Char}

/-- Few digits before and after a point make a decimal of all the digits. -/
theorem clipped_of_append {first second : List Char} (small : decimal.digits < 2 ^ 53)
    (digits : first ++ second = Nat.toDigits 10 decimal.digits) {exponent : Int}
    (same : exponent - second.length = decimal.exponent) :
    Numeral.clipped first second exponent = decimal := by
  have all : Numeral.accumulate (Numeral.accumulate 0 first) second = decimal.digits := by
    rw [← accumulate_append, digits, accumulate_toDigits]
  rw [clipped_eq exponent (by omega), Numeral.decimal, all, same]

/-- A decimal in scientific form is read with all of its digits. -/
theorem number_scientific {first : Char} {fraction : List Char} {lead : Int}
    (positive : 0 < decimal.digits) (digits : Nat.toDigits 10 decimal.digits = first :: fraction)
    (ends : EndsNumber rest) :
    number negative ([first] ++ (pointed fraction ++ 'e' :: (scale lead ++ rest))) =
      finite? ((Numeral.clipped [first] fraction lead).scaled negative) rest := by
  -- The first digit stands before the point and is no zero, as the number is positive.
  have each : ∀ c ∈ first :: fraction, c.isDigit = true := digits ▸ isDigit_toDigits
  rw [List.forall_mem_cons] at each
  have nonzero : [first].head? ≠ some '0' := by
    have := head?_toDigits positive
    rwa [digits] at this
  have marked : EndsDigits (pointed fraction ++ 'e' :: (scale lead ++ rest)) := by
    unfold pointed
    split <;> simp [EndsDigits]
  rw [number_of_digits (by simpa using each.1) (List.cons_ne_nil _ _) nonzero marked,
    numberTail_scaled each.2 lead ends.digits]

/-- Digits on both sides of a point are read, the first ones as whole digits. -/
theorem number_positional {first second : List Char} (positive : 0 < decimal.digits)
    (digits : first ++ second = Nat.toDigits 10 decimal.digits) (nonempty : first ≠ [])
    (nonempty' : second ≠ []) (ends : EndsNumber rest) :
    number negative (first ++ '.' :: (second ++ rest)) =
      finite? ((Numeral.clipped first second 0).scaled negative) rest := by
  -- The digits of a number are digits, and the first one is no zero.
  have each : ∀ c ∈ first ++ second, c.isDigit = true := digits ▸ isDigit_toDigits
  rw [List.forall_mem_append] at each
  have nonzero : first.head? ≠ some '0' := by
    have := head?_toDigits positive
    rwa [← digits, List.head?_append_of_ne_nil _ nonempty] at this
  rw [number_of_digits each.1 nonempty nonzero (by simp [EndsDigits]),
    numberTail_pointed each.2 nonempty' ends]

/-- Digits behind a point and zeros are read with the zeros before them. -/
theorem number_fraction (decimal : Decimal) (zeros : Nat) (ends : EndsNumber rest) :
    number negative ('0' :: '.' ::
        ((List.replicate zeros '0' ++ Nat.toDigits 10 decimal.digits) ++ rest)) =
      finite? ((Numeral.clipped ['0']
        (List.replicate zeros '0' ++ Nat.toDigits 10 decimal.digits) 0).scaled negative) rest := by
  have each : ∀ c ∈ List.replicate zeros '0' ++ Nat.toDigits 10 decimal.digits,
      c.isDigit = true := by
    rw [List.forall_mem_append]
    exact ⟨fun c member => (List.eq_of_mem_replicate member) ▸ rfl, isDigit_toDigits⟩
  rw [number_of_zero (by simp [EndsDigits]), numberTail_pointed each (by simp) ends]

/-- Few digits behind a point and zeros make a decimal of the digits. -/
theorem clipped_fraction {zeros : Nat} (small : decimal.digits < 2 ^ 53)
    (same : -((zeros + (Nat.toDigits 10 decimal.digits).length : Nat) : Int) = decimal.exponent) :
    Numeral.clipped ['0'] (List.replicate zeros '0' ++ Nat.toDigits 10 decimal.digits) 0 =
      decimal := by
  -- The zeros behind the point add nothing to the significand.
  have start : Numeral.accumulate 0 ['0'] = 0 := rfl
  have all : Numeral.accumulate (Numeral.accumulate 0 ['0'])
      (List.replicate zeros '0' ++ Nat.toDigits 10 decimal.digits) = decimal.digits := by
    rw [start, accumulate_append, accumulate_eq _ (List.replicate zeros '0'),
      Nat.ofDigitChars_replicate_zero, Nat.mul_zero, accumulate_toDigits]
  rw [clipped_eq 0 (by omega), Numeral.decimal, all, List.length_append, List.length_replicate,
    zero_sub, same]

/-- Digits with zeros and a point behind them are read with the zeros, also the one behind the
point. -/
theorem number_padded (positive : 0 < decimal.digits) (zeros : Nat) (ends : EndsNumber rest) :
    number negative ((Nat.toDigits 10 decimal.digits ++ List.replicate zeros '0') ++
        '.' :: (['0'] ++ rest)) =
      finite? ((Numeral.clipped (Nat.toDigits 10 decimal.digits ++ List.replicate zeros '0')
        ['0'] 0).scaled negative) rest := by
  -- The zeros behind the digits are digits as well, and the first one is still that of the number.
  have each : ∀ c ∈ Nat.toDigits 10 decimal.digits ++ List.replicate zeros '0',
      c.isDigit = true := by
    rw [List.forall_mem_append]
    exact ⟨isDigit_toDigits, fun c member => (List.eq_of_mem_replicate member) ▸ rfl⟩
  have nonzero : (Nat.toDigits 10 decimal.digits ++ List.replicate zeros '0').head? ≠ some '0' := by
    rw [List.head?_append_of_ne_nil _ Nat.toDigits_ne_nil]
    exact head?_toDigits positive
  rw [number_of_digits each (by simp) nonzero (by simp [EndsDigits]),
    numberTail_pointed (by simp) (List.cons_ne_nil _ _) ends]

/-- Few digits with zeros and a point behind them make a decimal with one zero more, divided by
ten. -/
theorem clipped_padded {zeros : Nat} (small : decimal.digits * 10 ^ (zeros + 1) < 2 ^ 53) :
    Numeral.clipped (Nat.toDigits 10 decimal.digits ++ List.replicate zeros '0') ['0'] 0 =
      ⟨decimal.digits * 10 ^ (zeros + 1), -1⟩ := by
  -- The zero behind the point counts as one more zero behind the digits.
  have last (n : Nat) : Numeral.accumulate n ['0'] = n * 10 := rfl
  have all : Numeral.accumulate (Numeral.accumulate 0
      (Nat.toDigits 10 decimal.digits ++ List.replicate zeros '0')) ['0'] =
        decimal.digits * 10 ^ (zeros + 1) := by
    rw [accumulate_append, accumulate_toDigits, accumulate_eq _ (List.replicate zeros '0'),
      Nat.ofDigitChars_replicate_zero, last, Nat.pow_succ, ← Nat.mul_assoc,
      Nat.mul_comm (10 ^ zeros)]
  rw [clipped_eq 0 (by omega), Numeral.decimal, all]
  rfl

/-- A decimal is read from its text as some decimal, whatever stands behind the text and under
either sign; a short one as an exact one of the same size. -/
theorem number_render (positive : 0 < decimal.digits) :
    ∃ read : Decimal,
      (∀ negative rest, EndsNumber rest →
        number negative ((decimal.render numberLayout).toList ++ rest) =
          finite? (read.scaled negative) rest) ∧
      (decimal.IsShort → read.Exact ∧ read.value = decimal.value) := by
  have exact (short : decimal.IsShort) : decimal.Exact := short.exact positive
  unfold Decimal.render
  simp only
  generalize leads : decimal.exponent + (Nat.toDigits 10 decimal.digits).length - 1 = lead
  split
  next scientific =>
    -- The first digit stands before the point.
    cases all : Nat.toDigits 10 decimal.digits with
    | nil => exact absurd all Nat.toDigits_ne_nil
    | cons first fraction =>
      rw [all, List.length_cons] at leads
      refine ⟨Numeral.clipped [first] fraction lead, fun negative rest ends => ?_, fun short => ?_⟩
      · have sign : (if 0 ≤ lead then numberLayout.positiveExponent else "-").toList =
            [if lead < 0 then '-' else '+'] := by
          by_cases down : lead < 0
          · rw [if_pos down, if_neg (by omega)]
            rfl
          · rw [if_neg down, if_pos (by omega)]
            rfl
        rw [← number_scientific positive all ends]
        cases fraction <;> simp [pointed, scale, sign]
      · rw [clipped_of_append (exact short).digits all.symm (by omega)]
        exact ⟨exact short, rfl⟩
  next positional =>
    split
    next whole =>
      -- Zeros fill up the whole number, and one more stands behind the point.
      obtain ⟨zeros, same⟩ := Int.eq_ofNat_of_zero_le whole
      refine ⟨Numeral.clipped (Nat.toDigits 10 decimal.digits ++ List.replicate zeros '0') ['0'] 0,
        fun negative rest ends => ?_, fun short => ?_⟩
      · rw [← number_padded positive zeros ends, same]
        simp
      · have small : decimal.digits * 10 ^ (zeros + 1) < 2 ^ 53 := by
          simpa [same] using short.digits
        rw [clipped_padded small]
        refine ⟨⟨small, by simp, by simp⟩, ?_⟩
        rw [Decimal.value, Decimal.value, same, zpow_natCast, zpow_neg_one]
        push_cast
        ring
    next fractional =>
      split
      next inside =>
        -- The point stands between the digits.
        generalize wholes : (lead + 1).toNat = whole
        have before : whole < (Nat.toDigits 10 decimal.digits).length := by omega
        have joined := List.take_append_drop whole (Nat.toDigits 10 decimal.digits)
        refine ⟨Numeral.clipped ((Nat.toDigits 10 decimal.digits).take whole)
          ((Nat.toDigits 10 decimal.digits).drop whole) 0, fun negative rest ends => ?_,
          fun short => ?_⟩
        · rw [← number_positional positive joined (List.length_pos_iff.1 (by simp; omega))
            (List.length_pos_iff.1 (by simp; omega)) ends]
          simp
        · rw [clipped_of_append (exact short).digits joined (by simp; omega)]
          exact ⟨exact short, rfl⟩
      next small =>
        -- All digits stand behind the point.
        generalize missing : (-lead - 1).toNat = zeros
        refine ⟨Numeral.clipped ['0']
          (List.replicate zeros '0' ++ Nat.toDigits 10 decimal.digits) 0,
          fun negative rest ends => ?_, fun short => ?_⟩
        · rw [← number_fraction decimal zeros ends]
          simp
        · rw [clipped_fraction (exact short).digits (by omega)]
          exact ⟨exact short, rfl⟩

/-- The text of a decimal starts with a digit. -/
theorem isDigit_render (decimal : Decimal) :
    ∃ c rest, (decimal.render numberLayout).toList = c :: rest ∧ c.isDigit = true := by
  obtain ⟨first, others, all⟩ := List.exists_cons_of_ne_nil
    (Nat.toDigits_ne_nil (b := 10) (n := decimal.digits))
  have digit : first.isDigit = true := isDigit_toDigits first (by rw [all]; exact List.mem_cons_self)
  -- It is enough that the text has a first character, and that this is a digit.
  suffices head : ∃ c, (decimal.render numberLayout).toList.head? = some c ∧ c.isDigit = true by
    obtain ⟨c, same, each⟩ := head
    obtain ⟨rest, text⟩ := List.head?_eq_some_iff.1 same
    exact ⟨c, rest, text, each⟩
  unfold Decimal.render
  simp only [all]
  split
  next scientific =>
    refine ⟨first, ?_, digit⟩
    cases others <;> simp
  next positional =>
    split
    next whole => exact ⟨first, by simp, digit⟩
    next fractional =>
      split
      next inside =>
        -- At least one digit stands before the point.
        obtain ⟨before, count⟩ := Nat.exists_eq_succ_of_ne_zero
          (n := (decimal.exponent + ((first :: others).length : Int) - 1 + 1).toNat) (by omega)
        exact ⟨first, by rw [count]; simp, digit⟩
      next small => exact ⟨'0', by simp, by decide⟩

end Decimal

/-- A text is read as a number, or refused, whatever it is followed by that does not go on with
it. -/
def WritesNumber (text : List Char) (result : Option Json) : Prop :=
  ∃ negative digits, text = (if negative then ['-'] else []) ++ digits ∧
    (∃ c rest, digits = c :: rest ∧ c.isDigit = true) ∧
    ∀ rest, EndsNumber rest → number negative (digits ++ rest) = result.map (·, rest)

/-- The text of a whole number of 64 bits is read as the number. -/
theorem writesNumber_integer {value : Int} (least : -0x8000000000000000 ≤ value)
    (greatest : value < 0x10000000000000000) :
    WritesNumber (toString value).toList (some (.integer value)) := by
  -- A numeral has a digit at its head, whatever the number.
  have starts (n : Nat) : ∃ c rest, Nat.toDigits 10 n = c :: rest ∧ c.isDigit = true := by
    obtain ⟨c, rest, same⟩ := List.exists_cons_of_ne_nil (Nat.toDigits_ne_nil (b := 10) (n := n))
    exact ⟨c, rest, same, isDigit_toDigits c (by rw [same]; exact List.mem_cons_self)⟩
  cases value with
  | ofNat n =>
    have small : (n : Int) < 0x10000000000000000 := greatest
    refine ⟨false, Nat.toDigits 10 n, ?_, starts n, fun rest ends => ?_⟩
    · rw [← Nat.toList_repr]
      rfl
    · exact number_toDigits ends (by simp; omega) (by simp)
  | negSucc n =>
    refine ⟨true, Nat.toDigits 10 (n + 1), ?_, starts (n + 1), fun rest ends => ?_⟩
    · have text : toString (Int.negSucc n) = "-" ++ (n + 1).repr := rfl
      rw [text, String.toList_append, Nat.toList_repr]
      rfl
    · have small : (if true then n + 1 ≤ 0x8000000000000000 else n + 1 < 0x10000000000000000) := by
        simp
        omega
      exact number_toDigits ends small (by simp)

/-- A floating-point number is zero, or its shortest decimal is short. -/
def IsShort (x : Binary64) : Prop :=
  ∀ negative significand exponent, x.reading = .finite negative significand exponent →
    0 < significand → (Decimal.shortest significand exponent).IsShort

/-- The text of a finite floating-point number is read as some number or refused; as the number
itself if its decimal is short. -/
theorem writesNumber_float {x : Binary64} (finite : x.isFinite = true) :
    ∃ result, WritesNumber (writeFloat x).toList result ∧
      (IsShort x → result = some (.float x)) := by
  obtain ⟨negative, significand, exponent, reading⟩ := Binary64.reading_of_isFinite finite
  have split (y : Binary64) (rest : List Char) : finite? y rest =
      (if y.isFinite then some (.float y) else none : Option Json).map (·, rest) := by
    unfold finite?
    split <;> rfl
  have sign : (if negative then "-" else "").toList = if negative then ['-'] else [] := by
    cases negative <;> rfl
  rcases Nat.eq_zero_or_pos significand with rfl | positive
  · -- A zero is written with a zero on both sides of the point.
    have zero : (Numeral.clipped ['0'] ['0'] 0).scaled negative = x := by
      rw [Binary64.eq_zero_of_reading reading]
      cases negative <;> decide
    refine ⟨some (.float x), ⟨negative, ['0', '.', '0'], ?_, ⟨'0', _, rfl, rfl⟩,
      fun rest ends => ?_⟩, fun _ => rfl⟩
    · simp [writeFloat, Binary64.render?, reading, sign]
    · have ends' : EndsDigits ('.' :: (['0'] ++ rest)) := by simp [EndsDigits]
      have tail : numberTail negative ['0'] ('.' :: (['0'] ++ rest)) = some (.float x, rest) := by
        rw [numberTail_pointed (by simp) (List.cons_ne_nil _ _) ends, zero, finite?, if_pos finite]
      exact (number_of_zero ends').trans tail
  · obtain ⟨normal, -, -⟩ := Binary64.finite_of_reading reading
    obtain ⟨digits, -⟩ := Decimal.roundsTo_shortest normal positive
    obtain ⟨read, number, short⟩ := number_render (Nat.pos_of_ne_zero digits)
    refine ⟨_, ⟨negative, ((Decimal.shortest significand exponent).render numberLayout).toList, ?_,
      isDigit_render _, fun rest ends => (number negative rest ends).trans (split _ rest)⟩,
      fun few => ?_⟩
    · simp [writeFloat, Binary64.render?, reading, positive.ne', sign]
    · obtain ⟨exact, size⟩ := short (few negative significand exponent reading positive)
      rw [Decimal.scaled_eq_toBinary64 negative exact,
        Decimal.toBinary64_of_shortest reading positive size, if_pos finite]

end Reshape.Json
