import Mathlib.Algebra.BigOperators.Group.List.Basic
import Mathlib.Data.List.Infix
import Reshape.Builtin.Collection
import Reshape.Proofs.Value.Arithmetic

/-!
The sum of an array of integers. The items are added one by one: as long as the running total is a
signed integer of 64 bits it is exact, and once it would be none the sum goes on with floating-point
numbers, however small it becomes again. So whether a sum is exact depends on the order of the
items, except where the positive items and the negative ones have such a total each on their own.
-/

namespace Reshape.Collection

variable {items order : List Int64} {total item : Int64}

/-- The exact total of integers. -/
def exactSum (items : List Int64) : Int :=
  (items.map Int64.toInt).sum

@[simp] theorem exactSum_nil : exactSum [] = 0 := rfl

@[simp] theorem exactSum_cons (item : Int64) (rest : List Int64) :
    exactSum (item :: rest) = item.toInt + exactSum rest := by
  simp [exactSum]

/-- The exact total of two lists is the sum of theirs. -/
@[simp] theorem exactSum_append (front back : List Int64) :
    exactSum (front ++ back) = exactSum front + exactSum back := by
  simp [exactSum]

/-- The exact total does not depend on the order. -/
theorem exactSum_perm (same : order.Perm items) : exactSum order = exactSum items :=
  (same.map Int64.toInt).sum_eq

/-- All running totals, from a start on, are signed integers of 64 bits. -/
def Fits (start : Int) (items : List Int64) : Prop :=
  ∀ front ∈ items.inits, IsInt64 (start + exactSum front)

instance (start : Int) (items : List Int64) : Decidable (Fits start items) :=
  inferInstanceAs (Decidable (∀ front ∈ items.inits, IsInt64 (start + exactSum front)))

/-- Without items the start is the only running total. -/
@[simp] theorem fits_nil {start : Int} : Fits start [] ↔ IsInt64 start := by
  simp [Fits]

/-- The running totals of items are the start and those from the first item on. -/
@[simp] theorem fits_cons {start : Int} {item : Int64} {rest : List Int64} :
    Fits start (item :: rest) ↔ IsInt64 start ∧ Fits (start + item.toInt) rest := by
  simp [Fits, Int.add_assoc]

/-- Integers added to a floating-point number one by one. -/
def roundedSum (x : Binary64) (items : List Int64) : Binary64 :=
  items.foldl (fun x item => x.add (.ofInt item.toInt)) x

/-- One step of a sum: the running total with the next item. -/
def accumulate (total item : Value) : Except Error Value :=
  match Value.combine Value.addition total item with
  | some total => .ok total
  | none => .error (.expected "number" item)

/-- A sum goes through the items from left to right. -/
theorem sum_array (items : List Value) :
    sum (.array items) = items.foldlM accumulate (.int 0) := rfl

/-- A total that is a signed integer of 64 bits is kept as it is. -/
theorem accumulate_exact {result : Int64} (equal : result.toInt = total.toInt + item.toInt) :
    accumulate (.int total) (.int item) = .ok (.int result) := by
  have computed : Value.combine Value.addition (.int total) (.int item) = some (.int result) :=
    Value.combine_exact rfl rfl ⟨total, rfl⟩ ⟨item, rfl⟩ equal
  rw [accumulate, computed]

/-- In place of a total beyond 64 bits comes the sum of two floating-point numbers: the total before
it and the item, each of them rounded. -/
theorem accumulate_beyond (beyond : ¬IsInt64 (total.toInt + item.toInt)) :
    accumulate (.int total) (.int item) =
      .ok (.float (.add (.ofInt total.toInt) (.ofInt item.toInt))) := by
  have computed : Value.combine Value.addition (.int total) (.int item) =
      some (.float (.add (.ofInt total.toInt) (.ofInt item.toInt))) :=
    Value.combine_rounded rfl rfl fun _ _ => beyond
  rw [accumulate, computed]

/-- A total that has been rounded once goes on as a floating-point number. -/
theorem foldlM_accumulate_float (x : Binary64) (items : List Int64) :
    (items.map Value.int).foldlM accumulate (.float x) = .ok (.float (roundedSum x items)) := by
  induction items generalizing x with
  | nil => rfl
  | cons item rest ih => exact ih _

/-- Where all running totals are signed integers of 64 bits the sum is exact. -/
theorem foldlM_accumulate_exact (total : Int64) (fits : Fits total.toInt items) :
    ∃ value : Int64, value.toInt = total.toInt + exactSum items ∧
      (items.map Value.int).foldlM accumulate (.int total) = .ok (.int value) := by
  induction items generalizing total with
  | nil => exact ⟨total, by simp, rfl⟩
  | cons item rest ih =>
    have onward := (fits_cons.1 fits).2
    -- The next running total is the start of the others.
    obtain ⟨next, equal⟩ : IsInt64 (total.toInt + item.toInt) := by
      simpa using onward [] (by simp)
    rw [← equal] at onward
    obtain ⟨value, same, given⟩ := ih next onward
    refine ⟨value, by rw [same, equal, exactSum_cons, Int.add_assoc], ?_⟩
    rw [List.map_cons, List.foldlM_cons, accumulate_exact equal]
    exact given

/-- In place of the first running total beyond 64 bits comes the sum of two floating-point numbers,
the rounded total before it and the rounded item, and the items behind are added to it as
floating-point numbers. -/
theorem foldlM_accumulate_beyond (total : Int64) (beyond : ¬Fits total.toInt items) :
    ∃ front item back, items = front ++ item :: back ∧ Fits total.toInt front ∧
      ¬IsInt64 (total.toInt + exactSum (front ++ [item])) ∧
      (items.map Value.int).foldlM accumulate (.int total) = .ok (.float (roundedSum
        (.add (.ofInt (total.toInt + exactSum front)) (.ofInt item.toInt)) back)) := by
  have here : IsInt64 total.toInt := ⟨total, rfl⟩
  induction items generalizing total with
  | nil => exact absurd (fits_nil.2 here) beyond
  | cons item rest ih =>
    by_cases next : IsInt64 (total.toInt + item.toInt)
    · -- The step is exact, and one of the later running totals is beyond 64 bits.
      obtain ⟨next, equal⟩ := next
      have onward : ¬Fits next.toInt rest := fun fits =>
        beyond (fits_cons.2 ⟨here, equal ▸ fits⟩)
      obtain ⟨front, last, back, rfl, fits, past, given⟩ := ih next onward ⟨next, rfl⟩
      rw [equal] at fits past given
      refine ⟨item :: front, last, back, rfl, fits_cons.2 ⟨here, fits⟩, ?_, ?_⟩
      · rwa [List.cons_append, exactSum_cons, ← Int.add_assoc]
      · rw [List.map_cons, List.foldlM_cons, accumulate_exact equal, exactSum_cons,
          ← Int.add_assoc]
        exact given
    · -- This step is made with floating-point numbers, and so are all that follow.
      refine ⟨[], item, rest, rfl, fits_nil.2 here, by simpa using next, ?_⟩
      rw [List.map_cons, List.foldlM_cons, accumulate_beyond next, exactSum_nil, Int.add_zero]
      exact foldlM_accumulate_float _ _

/-- The positive ones of integers. -/
def gains (items : List Int64) : List Int64 :=
  items.filter fun item => 0 < item.toInt

/-- The negative ones of integers. -/
def losses (items : List Int64) : List Int64 :=
  items.filter fun item => item.toInt < 0

/-- An item counts among those of a kind only if it is of that kind. -/
theorem exactSum_filter_cons (kind : Int64 → Bool) (item : Int64) (rest : List Int64) :
    exactSum ((item :: rest).filter kind) =
      (if kind item then item.toInt else 0) + exactSum (rest.filter kind) := by
  cases inside : kind item <;> simp [inside]

/-- The exact total is what the positive items and the negative ones come to. -/
theorem exactSum_gains_losses (items : List Int64) :
    0 ≤ exactSum (gains items) ∧ exactSum (losses items) ≤ 0 ∧
      exactSum items = exactSum (gains items) + exactSum (losses items) := by
  induction items with
  | nil => decide
  | cons item rest ih =>
    simp only [gains, losses, exactSum_filter_cons, exactSum_cons, decide_eq_true_eq] at ih ⊢
    split <;> split <;> omega

/-- No running total is more than the positive items come to, or less than the negative ones do. -/
theorem fits_of_gains_losses (positive : IsInt64 (exactSum (gains items)))
    (negative : IsInt64 (exactSum (losses items))) : Fits 0 items := by
  -- A running total is what its front gains and loses, and the back can only add to either.
  intro front isFront
  obtain ⟨back, rfl⟩ := (List.mem_inits front items).1 isFront
  have first := exactSum_gains_losses front
  have second := exactSum_gains_losses back
  simp only [gains, losses, List.filter_append, exactSum_append, isInt64_iff] at *
  omega

/-- All running totals are signed integers of 64 bits in every order of the items just if what the
positive items come to is one and what the negative ones do. -/
theorem forall_perm_fits_iff : (∀ order : List Int64, order.Perm items → Fits 0 order) ↔
    IsInt64 (exactSum (gains items)) ∧ IsInt64 (exactSum (losses items)) := by
  constructor
  · intro fits
    -- In some order all items of a kind come first.
    have among (kind : Int64 → Bool) : IsInt64 (exactSum (items.filter kind)) := by
      have ahead := fits _ (List.filter_append_perm kind items) (items.filter kind)
        ((List.mem_inits _ _).2 (List.prefix_append _ _))
      rwa [Int.zero_add] at ahead
    exact ⟨among _, among _⟩
  · rintro ⟨positive, negative⟩ order same
    have gained : exactSum (gains order) = exactSum (gains items) := exactSum_perm (same.filter _)
    have lost : exactSum (losses order) = exactSum (losses items) := exactSum_perm (same.filter _)
    exact fits_of_gains_losses (gained ▸ positive) (lost ▸ negative)

/-- The sum of integers is exact just if all running totals are signed integers of 64 bits. If not,
the place of the first one that is none is taken by the sum of two floating-point numbers, the
rounded total before it and the rounded item, and the items behind are added as floating-point
numbers as well. The sum is exact in every order of the items just if what the positive items come
to and what the negative ones do are signed integers of 64 bits. -/
theorem sum_exact_iff (items : List Int64) :
    ((∃ value : Int64, value.toInt = exactSum items ∧
        sum (.array (items.map .int)) = .ok (.int value)) ↔ Fits 0 items) ∧
    (¬Fits 0 items → ∃ front item back, items = front ++ item :: back ∧ Fits 0 front ∧
      ¬IsInt64 (exactSum (front ++ [item])) ∧
      sum (.array (items.map .int)) = .ok (.float (roundedSum
        (.add (.ofInt (exactSum front)) (.ofInt item.toInt)) back))) ∧
    ((∀ order : List Int64, order.Perm items → ∃ value : Int64,
        value.toInt = exactSum items ∧ sum (.array (order.map .int)) = .ok (.int value)) ↔
      IsInt64 (exactSum (gains items)) ∧ IsInt64 (exactSum (losses items))) := by
  have rounded (items : List Int64) (beyond : ¬Fits 0 items) :
      ∃ front item back, items = front ++ item :: back ∧ Fits 0 front ∧
        ¬IsInt64 (exactSum (front ++ [item])) ∧
        sum (.array (items.map .int)) = .ok (.float (roundedSum
          (.add (.ofInt (exactSum front)) (.ofInt item.toInt)) back)) := by
    rw [sum_array]
    simpa only [Int64.toInt_zero, Int.zero_add] using foldlM_accumulate_beyond 0 beyond
  have fitting (items : List Int64) :
      (∃ value : Int64, value.toInt = exactSum items ∧
        sum (.array (items.map .int)) = .ok (.int value)) ↔ Fits 0 items := by
    constructor
    · rintro ⟨value, same, given⟩
      by_contra beyond
      obtain ⟨front, item, back, -, -, -, other⟩ := rounded items beyond
      cases given.symm.trans other
    · intro fits
      rw [sum_array]
      simpa only [Int64.toInt_zero, Int.zero_add] using foldlM_accumulate_exact 0 fits
  -- In every order the sum is exact just if all running totals fit in every order.
  refine ⟨fitting items, rounded items, ?_⟩
  rw [← forall_perm_fits_iff]
  refine forall₂_congr fun order same => ?_
  rw [← fitting order, exactSum_perm same]

section Sample

/-- The greatest integer, one, and the negative of the greatest. -/
def crossing : List Int64 :=
  [9223372036854775807, 1, -9223372036854775807]

/-- Three small integers have an exact sum in every order. The sum of the others is a floating-point
number, for the first two of them come to more than the greatest integer. -/
theorem sum_exact_iff_crossing :
    (∀ order : List Int64, order.Perm [5, -7, 3] → ∃ value : Int64,
      value.toInt = exactSum [5, -7, 3] ∧ sum (.array (order.map .int)) = .ok (.int value)) ∧
    ¬Fits 0 crossing ∧
    ∃ front item back, crossing = front ++ item :: back ∧ Fits 0 front ∧
      ¬IsInt64 (exactSum (front ++ [item])) ∧
      sum (.array (crossing.map .int)) = .ok (.float (roundedSum
        (.add (.ofInt (exactSum front)) (.ofInt item.toInt)) back)) := by
  have beyond : ¬Fits 0 crossing := by decide
  exact ⟨(sum_exact_iff [5, -7, 3]).2.2.2 (by decide), beyond, (sum_exact_iff crossing).2.1 beyond⟩

/-- The sum of integers whose exact total is one need not be exact, and depends on their order. -/
theorem not_sum_exact :
    exactSum crossing = 1 ∧
      sum (.array (crossing.map .int)) = .ok (.float ⟨0⟩) ∧
      sum (.array (crossing.reverse.map .int)) = .ok (.int 1) ∧
      ¬∀ items : List Int64, IsInt64 (exactSum items) → ∃ value : Int64,
        value.toInt = exactSum items ∧ sum (.array (items.map .int)) = .ok (.int value) := by
  have total : exactSum crossing = 1 := by decide
  refine ⟨total, rfl, rfl, fun sums => ?_⟩
  obtain ⟨value, -, given⟩ := sums crossing (by decide)
  cases given

end Sample

end Reshape.Collection
