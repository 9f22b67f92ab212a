import Reshape.Proofs.Value.Order
import Reshape.Value.Arithmetic

/-!
Arithmetic on integers. The result of an operation on two integers is exact if both of them and the
result itself are signed integers of 64 bits; if one of the three is not, the operation is done on
floating-point numbers.
-/

namespace Reshape

/-- An integer is one of the signed integers of 64 bits. -/
def IsInt64 (n : Int) : Prop :=
  ∃ value : Int64, value.toInt = n

/-- The signed integers of 64 bits are those between two bounds. -/
theorem isInt64_iff {n : Int} : IsInt64 n ↔ -0x8000000000000000 ≤ n ∧ n < 0x8000000000000000 := by
  constructor
  · rintro ⟨value, rfl⟩
    exact ⟨value.le_toInt, value.toInt_lt⟩
  · rintro ⟨least, greatest⟩
    exact ⟨Int64.ofInt n, Int64.toInt_ofInt_of_le least greatest⟩

instance (n : Int) : Decidable (IsInt64 n) :=
  decidable_of_iff _ isInt64_iff.symm

/-- The signed integer that an integer is. -/
theorem int64?_eq_some {n : Int} {value : Int64} : int64? n = some value ↔ value.toInt = n := by
  -- In the range the integer is kept, and outside no signed one is equal to it.
  unfold int64?
  split
  next inside =>
    have same : (Int64.ofInt n).toInt = n := Int64.toInt_ofInt_of_le inside.1 inside.2
    constructor
    · intro found
      rw [← Option.some.inj found, same]
    · intro found
      exact congrArg some (Int64.toInt_inj.1 (same.trans found.symm))
  next outside =>
    refine iff_of_false (by simp) fun found => outside ?_
    exact isInt64_iff.1 ⟨value, found⟩

/-- An integer beyond 64 bits is no signed integer. -/
theorem int64?_eq_none {n : Int} : int64? n = none ↔ ¬IsInt64 n := by
  simp only [Option.eq_none_iff_forall_ne_some, ne_eq, int64?_eq_some, IsInt64, not_exists]

namespace Value

variable {a b : Value} {m n : Int} {operation : Operation}

/-- An integer is a signed one if it is one of 64 bits. -/
theorem toInt64?_of_integer? (known : a.integer? = some m) : a.toInt64? = int64? m := by
  -- A signed integer is one of 64 bits already.
  cases a with
  | int value =>
    obtain rfl := Option.some.inj known
    exact (int64?_eq_some.2 rfl).symm
  | uint value =>
    obtain rfl := Option.some.inj known
    rfl
  | _ => cases known

/-- An integer is rounded to a floating-point number. -/
theorem toFloat?_of_integer? (known : a.integer? = some m) : a.toFloat? = some (.ofInt m) := by
  cases a with
  | int value | uint value =>
    obtain rfl := Option.some.inj known
    rfl
  | _ => cases known

/-- Messages call an integer a number. -/
theorem typeName_of_integer? (known : a.integer? = some m) : a.typeName = "number" := by
  cases a with
  | int value | uint value => rfl
  | _ => cases known

/-- An operation on two integers is done on signed integers of 64 bits. -/
theorem combineIntegers_of_integers (known : a.integer? = some m) (known' : b.integer? = some n) :
    combineIntegers operation a b = (int64? m).bind fun x => (int64? n).bind fun y =>
      int64? (operation.exact x.toInt y.toInt) := by
  rw [← toInt64?_of_integer? known, ← toInt64?_of_integer? known']
  -- Both operands are integers of either kind.
  cases a with
  | int value | uint value =>
    cases b with
    | int value' | uint value' => rfl
    | _ => cases known'
  | _ => cases known

/-- The result of an operation on signed integers of 64 bits is exact if it is one itself. -/
theorem combine_exact (known : a.integer? = some m) (known' : b.integer? = some n)
    (inside : IsInt64 m) (inside' : IsInt64 n) {result : Int64}
    (equal : result.toInt = operation.exact m n) :
    combine operation a b = some (.int result) := by
  obtain ⟨x, rfl⟩ := inside
  obtain ⟨y, rfl⟩ := inside'
  -- Both operands and the result fit, so that the first way of adding is taken.
  have computed : combineIntegers operation a b = some result := by
    rw [combineIntegers_of_integers known known', int64?_eq_some.2 rfl, int64?_eq_some.2 rfl]
    exact int64?_eq_some.2 equal
  unfold combine
  rw [computed]

/-- The result of an operation on integers is rounded if it or one of them is beyond 64 bits. -/
theorem combine_rounded (known : a.integer? = some m) (known' : b.integer? = some n)
    (beyond : IsInt64 m → IsInt64 n → ¬IsInt64 (operation.exact m n)) :
    combine operation a b = some (.float (operation.rounded (.ofInt m) (.ofInt n))) := by
  -- The integers are not combined, either as an operand is no signed one or as the result is none.
  have computed : combineIntegers operation a b = none := by
    rw [combineIntegers_of_integers known known', Option.bind_eq_none_iff]
    intro x first
    rw [Option.bind_eq_none_iff]
    intro y second
    rw [int64?_eq_some] at first second
    subst first second
    exact int64?_eq_none.2 (beyond ⟨x, rfl⟩ ⟨y, rfl⟩)
  unfold combine
  rw [computed, toFloat?_of_integer? known, toFloat?_of_integer? known']
  rfl

end Value

end Reshape
