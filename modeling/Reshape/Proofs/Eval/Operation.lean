import Reshape.Proofs.Eval.Agreement
import Reshape.Proofs.Value.Arithmetic

/-!
What operators give for integers. An operator that reads both of its operands does so in order, and
gives what it does to the two values. For two signed integers of 64 bits the result is exact as long
as it is one itself; a greater operand is rounded with the other one, or refused if a remainder is
asked for.
-/

namespace Reshape

namespace Operator

variable {operator : Operator} {a b : Value} {x y n : Int} {operation : Value.Operation}

/-- The operation on numbers that an operator stands for. -/
def operation? : Operator → Option Value.Operation
  | .add => some Value.addition
  | .subtract => some Value.subtraction
  | .multiply => some Value.multiplication
  | _ => none

/-- The exact result of an arithmetic operator on two integers; there is no remainder by zero. -/
def exactResult? (operator : Operator) (x y : Int) : Option Int :=
  match operator with
  | .add => some (x + y)
  | .subtract => some (x - y)
  | .multiply => some (x * y)
  | .remainder => if y = 0 then none else some (x.tmod y)
  | _ => none

/-- An operator with exact results on integers is an operation on numbers or the remainder. -/
theorem exactResult?_eq_some (computes : operator.exactResult? x y = some n) :
    (∃ operation, operator.operation? = some operation ∧ operation.exact x y = n) ∨
      (operator = .remainder ∧ y ≠ 0 ∧ x.tmod y = n) := by
  -- Of the operators only these have exact results.
  cases operator with
  | add | subtract | multiply => exact .inl ⟨_, rfl, Option.some.inj computes⟩
  | remainder =>
    rw [exactResult?] at computes
    split at computes
    next => cases computes
    next nonzero => exact .inr ⟨rfl, nonzero, Option.some.inj computes⟩
  | _ => cases computes

/-- The exact result of an operator that is an operation. -/
theorem exactResult?_of_operation? (stands : operator.operation? = some operation) :
    operator.exactResult? x y = some (operation.exact x y) := by
  cases operator with
  | add | subtract | multiply =>
    obtain rfl := Option.some.inj stands
    rfl
  | _ => cases stands

/-- An operator that is an operation combines two integers by it. -/
theorem result?_of_operation? (known : a.integer? = some x)
    (stands : operator.operation? = some operation) :
    operator.result? a b = .ok (Value.combine operation a b) := by
  cases operator with
  | add =>
    obtain rfl := Option.some.inj stands
    -- Only two texts of a kind are put end to end.
    cases a with
    | int value | uint value => rfl
    | _ => cases known
  | subtract | multiply =>
    obtain rfl := Option.some.inj stands
    rfl
  | _ => cases stands

/-- The remainder of a division by a signed integer of 64 bits is one, too. -/
theorem isInt64_tmod (inside : IsInt64 y) (nonzero : y ≠ 0) : IsInt64 (x.tmod y) := by
  -- The remainder is less than the divisor, apart from signs.
  have small : (x.tmod y).natAbs < y.natAbs := by
    rw [Int.natAbs_tmod]
    exact Nat.mod_lt _ (Int.natAbs_pos.2 nonzero)
  rw [isInt64_iff] at inside ⊢
  omega

/-- The remainder of two signed integers of 64 bits is exact. -/
theorem remainder?_exact (known : a.integer? = some x) (known' : b.integer? = some y)
    (inside : IsInt64 x) (inside' : IsInt64 y) (nonzero : y ≠ 0) {result : Int64}
    (equal : result.toInt = x.tmod y) : remainder? a b = .ok (some (.int result)) := by
  obtain ⟨dividend, rfl⟩ := inside
  obtain ⟨divisor, rfl⟩ := inside'
  have other : divisor ≠ 0 := fun zero => nonzero (by rw [zero]; rfl)
  rw [remainder?, Value.toInt64?_of_integer? known, Value.toInt64?_of_integer? known',
    int64?_eq_some.2 rfl, int64?_eq_some.2 rfl]
  -- The divisor is not zero, so that the remainder is the one of the integers.
  refine (if_neg other).trans ?_
  rw [← equal, Int64.ofInt_toInt]

/-- No remainder is taken of integers beyond 64 bits. -/
theorem remainder?_beyond (known : a.integer? = some x) (known' : b.integer? = some y)
    (beyond : ¬(IsInt64 x ∧ IsInt64 y)) : remainder? a b = .ok none := by
  rw [remainder?, Value.toInt64?_of_integer? known, Value.toInt64?_of_integer? known']
  split
  next dividend divisor first second =>
    exact absurd ⟨⟨dividend, int64?_eq_some.1 first⟩, ⟨divisor, int64?_eq_some.1 second⟩⟩ beyond
  next => rfl

/-- An arithmetic operator gives the exact result where it and both operands are signed integers of
64 bits. -/
theorem result?_exact (known : a.integer? = some x) (known' : b.integer? = some y)
    (inside : IsInt64 x) (inside' : IsInt64 y) {result : Int64}
    (computes : operator.exactResult? x y = some result.toInt) :
    operator.result? a b = .ok (some (.int result)) := by
  rcases exactResult?_eq_some computes with ⟨operation, stands, same⟩ | ⟨rfl, nonzero, same⟩
  · rw [result?_of_operation? known stands,
      Value.combine_exact known known' inside inside' same.symm]
  · exact remainder?_exact known known' inside inside' nonzero same.symm

end Operator

/-- The value or the error that comes of the result of an operator. -/
def Query.settle (operator : Operator) (left right : Query) (a b : Value) :
    Except Fault (Option Value) → Except Error Value
  | .ok (some result) => .ok result
  | .ok none =>
    .error (.mismatch ⟨operator.verb, a.typeName, b.typeName, left.label, right.label⟩)
  | .error fault => .error (.general fault)

/-- An outcome keeps an exact result: it is the integer if that is one of 64 bits, and in no case
are the operands refused for their types. -/
def KeepsExact (n : Int) (outcome : Except Error Value) : Prop :=
  (∀ value : Int64, value.toInt = n → outcome = .ok (.int value)) ∧
    ∀ mismatch, outcome ≠ .error (.mismatch mismatch)

/-- An exact result is kept by the integer that it is. -/
theorem keepsExact_int {n : Int} {value : Int64} (same : value.toInt = n) :
    KeepsExact n (.ok (.int value)) := by
  constructor
  · intro other equal
    rw [Int64.toInt_inj.1 (equal.trans same.symm)]
  · rintro mismatch ⟨⟩

/-- A rounded result keeps the exact one just if that is beyond 64 bits. -/
theorem keepsExact_float {n : Int} {x : Binary64} :
    KeepsExact n (.ok (.float x)) ↔ ¬IsInt64 n := by
  -- A result of 64 bits would have to be an integer, and a rounded one never is.
  constructor
  · rintro ⟨kept, -⟩ ⟨value, same⟩
    cases kept value same
  · intro beyond
    constructor
    · intro value same
      exact absurd ⟨value, same⟩ beyond
    · rintro mismatch ⟨⟩

namespace Query

variable {operator : Operator} {left right : Query} {context : Context}
  {memory between after : Memory} {a b : Value} {x y n : Int}

/-- An operator that is no connective reads both operands before it does anything. -/
theorem binary_strict (strict : operator ≠ .and ∧ operator ≠ .or) :
    binary operator left right context = (do
      let a ← left.read context
      let b ← right.read context
      match operator.result? a b with
      | .ok (some result) => return result
      | .ok none => mismatch operator left right a b
      | .error fault => throw (.general fault)) := by
  cases operator with
  | and => exact absurd rfl strict.1
  | or => exact absurd rfl strict.2
  | _ => rfl

/-- Where both operands give a value, an operator that is no connective gives what it does to the
two values. -/
theorem outcome_binary (first : (left.read context).outcome memory = (.ok a, between))
    (second : (right.read context).outcome between = (.ok b, after))
    (strict : operator ≠ .and ∧ operator ≠ .or) :
    (binary operator left right context).outcome memory =
      (settle operator left right a b (operator.result? a b), after) := by
  rw [binary_strict strict, Eval.outcome_bind_of_ok first, Eval.outcome_bind_of_ok second]
  rcases operator.result? a b with fault | _ | result <;> rfl

/-- Two integers and an exact result within 64 bits give this result. -/
theorem settle_exact (known : a.integer? = some x) (known' : b.integer? = some y)
    (computes : operator.exactResult? x y = some n) (inside : IsInt64 x) (inside' : IsInt64 y)
    {value : Int64} (same : value.toInt = n) :
    settle operator left right a b (operator.result? a b) = .ok (.int value) := by
  subst same
  rw [Operator.result?_exact known known' inside inside' computes]
  rfl

/-- Where an operand or the exact result is beyond 64 bits, the result of an operation on numbers is
rounded. -/
theorem settle_rounded {operation : Value.Operation} (known : a.integer? = some x)
    (known' : b.integer? = some y) (computes : operator.exactResult? x y = some n)
    (stands : operator.operation? = some operation)
    (beyond : ¬(IsInt64 x ∧ IsInt64 y ∧ IsInt64 n)) :
    settle operator left right a b (operator.result? a b) =
      .ok (.float (operation.rounded (.ofInt x) (.ofInt y))) := by
  rw [Operator.exactResult?_of_operation? stands] at computes
  obtain rfl := Option.some.inj computes
  rw [Operator.result?_of_operation? known stands,
    Value.combine_rounded known known' fun inside inside' fits => beyond ⟨inside, inside', fits⟩]
  rfl

/-- Where an operand is beyond 64 bits, the two have no remainder. -/
theorem settle_refused (known : a.integer? = some x) (known' : b.integer? = some y)
    (beyond : ¬(IsInt64 x ∧ IsInt64 y)) :
    settle .remainder left right a b (Operator.remainder.result? a b) =
      .error (.mismatch ⟨"modulo", "number", "number", left.label, right.label⟩) := by
  rw [Operator.result?, Operator.remainder?_beyond known known' beyond, settle,
    Value.typeName_of_integer? known, Value.typeName_of_integer? known']
  rfl

/-- An exact result is kept just if both operands are within 64 bits, or the result is not and is no
remainder. -/
theorem keepsExact_settle_iff (known : a.integer? = some x) (known' : b.integer? = some y)
    (computes : operator.exactResult? x y = some n) :
    KeepsExact n (settle operator left right a b (operator.result? a b)) ↔
      (IsInt64 x ∧ IsInt64 y) ∨ (operator ≠ .remainder ∧ ¬IsInt64 n) := by
  rcases Operator.exactResult?_eq_some computes with ⟨operation, stands, -⟩ | ⟨rfl, nonzero, rfl⟩
  · have arithmetic : operator ≠ .remainder := by
      rintro rfl
      cases stands
    by_cases within : IsInt64 x ∧ IsInt64 y ∧ IsInt64 n
    · obtain ⟨inside, inside', value, same⟩ := within
      rw [settle_exact known known' computes inside inside' same]
      exact iff_of_true (keepsExact_int same) (.inl ⟨inside, inside'⟩)
    · rw [settle_rounded known known' computes stands within, keepsExact_float]
      tauto
  · by_cases inside : IsInt64 x ∧ IsInt64 y
    · -- A remainder fits where the operands do.
      obtain ⟨value, same⟩ := Operator.isInt64_tmod inside.2 nonzero
      rw [settle_exact known known' computes inside.1 inside.2 same]
      exact iff_of_true (keepsExact_int same) (.inl inside)
    · rw [settle_refused known known' inside]
      refine iff_of_false (fun keeps => keeps.2 _ rfl) ?_
      rintro (within | ⟨other, -⟩)
      · exact inside within
      · exact other rfl

/-- An exact result of two integers is kept by an operator just if both are signed integers of 64
bits, or the result is beyond these and no remainder. Where the operands and the result are within
64 bits the operator gives the result; where one of the three is not, a sum, a difference and a
product are rounded, and a remainder is refused as if an operand were no number. -/
theorem keepsExact_iff (first : (left.read context).outcome memory = (.ok a, between))
    (second : (right.read context).outcome between = (.ok b, after))
    (known : a.integer? = some x) (known' : b.integer? = some y)
    (computes : operator.exactResult? x y = some n) :
    ∃ outcome, (binary operator left right context).outcome memory = (outcome, after) ∧
      (KeepsExact n outcome ↔
        (IsInt64 x ∧ IsInt64 y) ∨ (operator ≠ .remainder ∧ ¬IsInt64 n)) ∧
      (IsInt64 x → IsInt64 y → ∀ value : Int64, value.toInt = n → outcome = .ok (.int value)) ∧
      (∀ operation, operator.operation? = some operation →
        ¬(IsInt64 x ∧ IsInt64 y ∧ IsInt64 n) →
          outcome = .ok (.float (operation.rounded (.ofInt x) (.ofInt y)))) ∧
      (operator = .remainder → ¬(IsInt64 x ∧ IsInt64 y) →
        outcome = .error (.mismatch ⟨"modulo", "number", "number", left.label, right.label⟩)) := by
  -- Both operands are evaluated, as the operator is none that may stop after the first.
  have strict : operator ≠ .and ∧ operator ≠ .or := by
    constructor <;> rintro rfl <;> cases computes
  refine ⟨_, outcome_binary first second strict, ?_⟩
  refine ⟨keepsExact_settle_iff known known' computes, ?_, ?_, ?_⟩
  · intro inside inside' value same
    exact settle_exact known known' computes inside inside' same
  · intro operation stands beyond
    exact settle_rounded known known' computes stands beyond
  · rintro rfl beyond
    exact settle_refused known known' beyond

section Sample

/-- A constant gives its value and leaves the memory as it is. -/
theorem outcome_constant (value : Value) (context : Context) (memory : Memory) :
    ((constant value).read context).outcome memory = (.ok value, memory) := rfl

/-- What an operator between two constants gives. -/
def ofConstants (operator : Operator) (a b : Value) : Except Error Value :=
  ((binary operator (constant a) (constant b) (Context.bare ⟨[], ⟨0, 0⟩⟩)).outcome
    (.fresh (.seeded 0))).1

/-- The greatest signed integer less one is exact, and so is the remainder of a negative integer by
an unsigned one. -/
theorem keepsExact_iff_constants :
    (Operator.exactResult? .subtract 9223372036854775807 1 = some 9223372036854775806 ∧
      KeepsExact 9223372036854775806
        (ofConstants .subtract (.int 9223372036854775807) (.uint 1))) ∧
    (Operator.exactResult? .remainder (-7) 2 = some (-1) ∧
      KeepsExact (-1) (ofConstants .remainder (.int (-7)) (.uint 2))) := by
  -- Both are instances of the theorem, with operands within 64 bits.
  have kept {operator : Operator} {a b : Value} {x y n : Int} (known : a.integer? = some x)
      (known' : b.integer? = some y) (computes : operator.exactResult? x y = some n)
      (inside : IsInt64 x ∧ IsInt64 y) :
      operator.exactResult? x y = some n ∧ KeepsExact n (ofConstants operator a b) := by
    obtain ⟨outcome, given, keeps, -⟩ := keepsExact_iff
      (outcome_constant a (Context.bare ⟨[], ⟨0, 0⟩⟩) (.fresh (.seeded 0)))
      (outcome_constant b _ _) known known' computes
    refine ⟨computes, ?_⟩
    rw [ofConstants, given]
    exact keeps.2 (.inl inside)
  exact ⟨kept rfl rfl rfl (by decide), kept rfl rfl rfl (by decide)⟩

/-- An unsigned integer beyond the signed ones is rounded although the difference is a signed one,
and it has no remainder. -/
theorem not_keepsExact :
    ofConstants .subtract (.uint 9223372036854775808) (.int 1) =
        .ok (.float ⟨0x43E0000000000000⟩) ∧
      ofConstants .remainder (.uint 9223372036854775808) (.int 10) =
        .error (.mismatch
          ⟨"modulo", "number", "number", "number literal", "number literal"⟩) ∧
      ¬∀ (operator : Operator) (a b : Value) (x y n : Int), a.integer? = some x →
        b.integer? = some y → operator.exactResult? x y = some n →
          KeepsExact n (ofConstants operator a b) := by
  refine ⟨rfl, rfl, fun keeps => ?_⟩
  have kept := keeps .subtract (.uint 9223372036854775808) (.int 1) _ _ _ rfl rfl rfl
  cases kept.1 9223372036854775807 rfl

end Sample

end Query

end Reshape
