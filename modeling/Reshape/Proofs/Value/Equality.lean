import Mathlib.Data.List.Forall2
import Reshape.Proofs.Value.Order

/-!
Equality of values. Values are equal if they are built alike and the numbers in the same places
compare as equal, so that the laws of equality are those of the numbers that values are made of.
-/

namespace Reshape

section Related

variable {α : Type} {related : α → α → Prop} {items items' items'' : List α}

/-- Sequences are related the other way round if their items are. -/
theorem forall₂_symm (each : ∀ a ∈ items, ∀ b, related a b → related b a)
    (sequences : List.Forall₂ related items items') : List.Forall₂ related items' items := by
  induction sequences with
  | nil => exact .nil
  | cons first _ ih =>
    rw [List.forall_mem_cons] at each
    exact .cons (each.1 _ first) (ih each.2)

/-- Sequences are related from one to the next if their items are. -/
theorem forall₂_trans
    (each : ∀ a ∈ items, ∀ b ∈ items', ∀ c ∈ items'', related a b → related b c → related a c)
    (first : List.Forall₂ related items items') (second : List.Forall₂ related items' items'') :
    List.Forall₂ related items items'' := by
  -- The middle sequence is as long as the others, and its items lead from one to the other.
  induction first generalizing items'' with
  | nil => exact second
  | cons head _ ih =>
    cases second with
    | cons next rest =>
      refine .cons (each _ (.head _) _ (.head _) _ (.head _) head next) (ih ?_ rest)
      exact fun a member b member' c member'' =>
        each a (.tail _ member) b (.tail _ member') c (.tail _ member'')

end Related

namespace Value

/-- All numbers in a value are among some numbers. -/
inductive MadeOf (numbers : Set Value) : Value → Prop where
  | number {value : Value} (among : value ∈ numbers) : MadeOf numbers value
  | other {value : Value} (single : value.isLeaf = true) (other : value.isNumber = false) :
      MadeOf numbers value
  | array {items : List Value} (each : ∀ item ∈ items, MadeOf numbers item) :
      MadeOf numbers (.array items)
  | object {fields : Fields Value} (each : ∀ field ∈ fields, MadeOf numbers field.2) :
      MadeOf numbers (.object fields)

mutual

/-- Every value is made of numbers, whatever they are. -/
theorem madeOf_numbers (value : Value) : MadeOf {a | a.isNumber = true} value := by
  match value with
  | .array items => exact .array (madeOf_numbers_items items)
  | .object fields => exact .object (madeOf_numbers_fields fields)
  | .int _ | .uint _ | .float _ => exact .number rfl
  | .null | .bool _ | .string _ | .bytes _ | .delete | .nothing => exact .other rfl rfl

/-- All items are made of numbers. -/
theorem madeOf_numbers_items (items : List Value) :
    ∀ item ∈ items, MadeOf {a | a.isNumber = true} item := by
  match items with
  | [] => simp
  | item :: rest =>
    exact List.forall_mem_cons.2 ⟨madeOf_numbers item, madeOf_numbers_items rest⟩

/-- The values of all fields are made of numbers. -/
theorem madeOf_numbers_fields (fields : List (String × Value)) :
    ∀ field ∈ fields, MadeOf {a | a.isNumber = true} field.2 := by
  match fields with
  | [] => simp
  | (_, value) :: rest =>
    exact List.forall_mem_cons.2 ⟨madeOf_numbers value, madeOf_numbers_fields rest⟩

end

section Parts

variable {a b : Value}

/-- Sequences are equal if their items are, one by one. -/
theorem equalItems_iff (items items' : List Value) :
    equalItems items items' = true ↔
      List.Forall₂ (fun a b => equals a b = true) items items' := by
  induction items generalizing items' with
  | nil => cases items' <;> simp [equalItems]
  | cons item rest ih => cases items' <;> simp [equalItems, ih]

/-- Sequences of fields are equal if they have the same names and equal values, one by one. -/
theorem equalFields_iff (fields fields' : List (String × Value)) :
    equalFields fields fields' = true ↔
      List.Forall₂ (fun a b => a.1 = b.1 ∧ equals a.2 b.2 = true) fields fields' := by
  induction fields generalizing fields' with
  | nil => cases fields' <;> simp [equalFields]
  | cons field rest ih => cases fields' <;> simp [equalFields, ih, and_assoc]

/-- Numbers are equal as they compare. -/
theorem equals_of_isNumber (number : a.isNumber = true) (b : Value) :
    equals a b = (compareNumbers a b == some .eq) := by
  cases a with
  | int value | uint value | float x => cases b <;> rfl
  | _ => cases number

/-- Only the same value equals one that is no number and not made of others. -/
theorem equals_of_isLeaf (single : a.isLeaf = true) (other : a.isNumber = false) :
    equals a b = true ↔ a = b := by
  cases a <;> cases b <;> simp_all [isLeaf, isNumber, equals, compareNumbers, toFloat?]

/-- Only arrays of equal items equal an array. -/
theorem equals_array (items : List Value) :
    equals (.array items) b = true ↔ ∃ items', b = .array items' ∧
      List.Forall₂ (fun a b => equals a b = true) items items' := by
  cases b <;> simp [equals, compareNumbers, toFloat?, equalItems_iff]

/-- Only objects of the same names with equal values equal an object. -/
theorem equals_object (fields : Fields Value) :
    equals (.object fields) b = true ↔ ∃ fields', b = .object fields' ∧
      List.Forall₂ (fun a b => a.1 = b.1 ∧ equals a.2 b.2 = true) fields fields' := by
  cases b <;> simp [equals, compareNumbers, toFloat?, equalFields_iff]

end Parts

section Laws

variable {a b c : Value} {numbers : Set Value}

/-- A definite number is a number. -/
theorem isNumber_of_isDefinite (definite : a.isDefinite = true) : a.isNumber = true := by
  cases a <;> first | rfl | cases definite

/-- A number compares as equal to itself just if it is definite. -/
theorem compareNumbers_self : compareNumbers a a = some .eq ↔ a.isDefinite = true := by
  constructor
  · intro same
    have compared : (compareNumbers a a).isSome = true := by rw [same]; rfl
    exact (isSome_compareNumbers.1 compared).1
  · intro definite
    -- Nothing comes before itself.
    rcases compareNumbers_cases definite definite with
      ⟨before, after, _⟩ | ⟨after, before, _⟩ | ⟨_, _, same⟩
    · exact absurd before after
    · exact absurd before after
    · exact same

/-- Numbers are equal just if they compare as equal. -/
theorem equals_iff_compareNumbers (number : a.isNumber = true) :
    equals a b = true ↔ compareNumbers a b = some .eq := by
  rw [equals_of_isNumber number]
  exact beq_iff_eq

/-- What equals a number is a definite number, and so is the number. -/
theorem isDefinite_of_equals (number : a.isNumber = true) (same : equals a b = true) :
    a.isDefinite = true ∧ b.isDefinite = true := by
  rw [equals_iff_compareNumbers number] at same
  exact isSome_compareNumbers.1 (by rw [same]; rfl)

/-- A value equals itself if all numbers in it are definite. -/
theorem equals_self (made : MadeOf {a | a.isDefinite = true} a) : equals a a = true := by
  -- The cases are those of how the value is made of numbers.
  induction made with
  | number definite =>
    exact (equals_iff_compareNumbers (isNumber_of_isDefinite definite)).2
      (compareNumbers_self.2 definite)
  | other single other => exact (equals_of_isLeaf single other).2 rfl
  | array _ ih => exact (equals_array _).2 ⟨_, rfl, List.forall₂_same.2 ih⟩
  | object _ ih =>
    exact (equals_object _).2 ⟨_, rfl, List.forall₂_same.2 fun field member =>
      ⟨rfl, ih field member⟩⟩

/-- What a value equals equals the value. -/
theorem equals_symm (same : equals a b = true) : equals b a = true := by
  -- The cases are those of the first value; the second one has the same form.
  induction madeOf_numbers a generalizing b with
  | @number value number =>
    have definite := (isDefinite_of_equals number same).2
    rw [equals_iff_compareNumbers number] at same
    rw [equals_iff_compareNumbers (isNumber_of_isDefinite definite), compareNumbers_swap value b,
      same]
    rfl
  | other single other =>
    obtain rfl := (equals_of_isLeaf single other).1 same
    exact same
  | array _ ih =>
    obtain ⟨_, rfl, items⟩ := (equals_array _).1 same
    exact (equals_array _).2 ⟨_, rfl, forall₂_symm (fun item member _ => ih item member) items⟩
  | object _ ih =>
    obtain ⟨_, rfl, fields⟩ := (equals_object _).1 same
    refine (equals_object _).2 ⟨_, rfl, forall₂_symm (fun field member _ alike => ?_) fields⟩
    exact ⟨alike.1.symm, ih field member alike.2⟩

/-- It does not matter which of two values is compared with the other one. -/
theorem equals_comm (a b : Value) : equals a b = equals b a :=
  Bool.eq_iff_iff.2 ⟨equals_symm, equals_symm⟩

/-- A number that is made of some numbers is one of them. -/
theorem MadeOf.mem (made : MadeOf numbers a) (number : a.isNumber = true) : a ∈ numbers := by
  cases made with
  | number among => exact among
  | other single other =>
    rw [number] at other
    cases other
  | _ => cases number

/-- The items of an array are made of the numbers that it is made of. -/
theorem MadeOf.item {items : List Value} (made : MadeOf numbers (.array items))
    (number : ∀ a ∈ numbers, a.isNumber = true) : ∀ item ∈ items, MadeOf numbers item := by
  cases made with
  | number among => cases number _ among
  | other single => cases single
  | array each => exact each

/-- The values of an object are made of the numbers that it is made of. -/
theorem MadeOf.field {fields : Fields Value} (made : MadeOf numbers (.object fields))
    (number : ∀ a ∈ numbers, a.isNumber = true) :
    ∀ field ∈ fields, MadeOf numbers field.2 := by
  cases made with
  | number among => cases number _ among
  | other single => cases single
  | object each => exact each

/-- Equality goes on from one value to the next if it does for the numbers in them. -/
theorem equals_trans (definite : ∀ a ∈ numbers, a.isDefinite = true)
    (trans : ∀ a ∈ numbers, ∀ b ∈ numbers, ∀ c ∈ numbers, compareNumbers a b = some .eq →
      compareNumbers b c = some .eq → compareNumbers a c = some .eq)
    (made : MadeOf numbers a) (made' : MadeOf numbers b) (made'' : MadeOf numbers c)
    (first : equals a b = true) (second : equals b c = true) : equals a c = true := by
  have numbers' (a : Value) (among : a ∈ numbers) := isNumber_of_isDefinite (definite a among)
  -- All three values have the same form, down to their numbers.
  induction made generalizing b c with
  | @number value among =>
    have number := isNumber_of_isDefinite (definite value among)
    have number' := isNumber_of_isDefinite (isDefinite_of_equals number first).2
    have number'' := isNumber_of_isDefinite (isDefinite_of_equals number' second).2
    rw [equals_iff_compareNumbers number] at first ⊢
    rw [equals_iff_compareNumbers number'] at second
    exact trans value among b (made'.mem number') c (made''.mem number'') first second
  | other single other =>
    obtain rfl := (equals_of_isLeaf single other).1 first
    exact second
  | array _ ih =>
    obtain ⟨_, rfl, items⟩ := (equals_array _).1 first
    obtain ⟨_, rfl, items'⟩ := (equals_array _).1 second
    have each := made'.item numbers'
    have each' := made''.item numbers'
    exact (equals_array _).2 ⟨_, rfl, forall₂_trans (fun item member next member' last member'' =>
      ih item member (each next member') (each' last member'')) items items'⟩
  | object _ ih =>
    obtain ⟨_, rfl, fields⟩ := (equals_object _).1 first
    obtain ⟨_, rfl, fields'⟩ := (equals_object _).1 second
    have each := made'.field numbers'
    have each' := made''.field numbers'
    refine (equals_object _).2 ⟨_, rfl,
      forall₂_trans (fun field member next member' last member'' alike alike' => ?_) fields fields'⟩
    exact ⟨alike.1.trans alike'.1,
      ih field member (each next member') (each' last member'') alike.2 alike'.2⟩

end Laws

end Value

end Reshape
