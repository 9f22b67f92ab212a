import Reshape.Builtin.Collection

/-!
Slices. An index names the nearest position of a sequence, where a negative one counts from the end,
and words of 64 bits suffice to find it. The bounds of a slice are in order and inside the sequence,
or they cross and there is no slice. Arrays, strings and octets are cut alike: a slice has the
elements between its bounds, and two slices that meet at an index are the whole. An item of an array
is the first one of the slice from its index on.
-/

namespace Reshape

namespace Stretch

/-- The position of a sequence that is nearest to an index, a negative one counting from the end. -/
def nearest (length : Nat) (index : Int) : Int :=
  max 0 (min length (if index < 0 then length + index else index))

/-- The position nearest to the upper bound of a slice, which is the end if there is none. -/
def nearestEnd (length : Nat) (high : Option Int) : Int :=
  (high.map (nearest length)).getD length

variable {length : Nat} {low : Int} {high : Option Int} {stretch : Stretch}

/-- An index names the nearest position. -/
theorem position_eq_nearest (length : Nat) (index : Int) :
    (position length index : Int) = nearest length index := by
  unfold position nearest
  split <;> omega

/-- A position is inside the sequence or at its end. -/
theorem position_le (length : Nat) (index : Int) : position length index ≤ length := by
  unfold position
  split <;> omega

/-- The upper bound of a slice is the nearest position. -/
theorem getD_position_eq_nearestEnd (length : Nat) (high : Option Int) :
    (((high.map (position length)).getD length : Nat) : Int) = nearestEnd length high := by
  cases high with
  | none => rfl
  | some index => exact position_eq_nearest length index

/-- Bounds in order make a slice between the positions nearest to them, inside the sequence. -/
theorem of_between_eq_ok (given : between length low high = .ok stretch) :
    (stretch.start : Int) = nearest length low ∧ (stretch.stop : Int) = nearestEnd length high ∧
      stretch.start ≤ stretch.stop ∧ stretch.stop ≤ length := by
  -- The positions of the program are the nearest ones, so only their order is left to see.
  rw [← position_eq_nearest, ← getD_position_eq_nearestEnd]
  unfold between at given
  dsimp only at given
  split at given
  next ordered =>
    obtain rfl := Except.ok.inj given
    refine ⟨rfl, rfl, ordered, ?_⟩
    cases high with
    | none => exact Nat.le_refl length
    | some index => exact position_le length index
  next => cases given

/-- There is no slice just if the positions nearest to its bounds cross. -/
theorem exists_between_eq_error_iff :
    (∃ crossed, between length low high = .error crossed) ↔
      nearestEnd length high < nearest length low := by
  -- Both cuts are compared as the positions that they are moved to.
  rw [← position_eq_nearest, ← getD_position_eq_nearestEnd]
  unfold between
  dsimp only
  split
  next ordered => exact iff_of_false (by simp) (by omega)
  next crossed => exact iff_of_true ⟨_, rfl⟩ (by omega)

section Words

/-- The position that an index names, computed with words of 64 bits. -/
def wordPosition (length : UInt64) (index : Int64) : UInt64 :=
  if index < 0 then
    -- The way back from the end, which stops at the start.
    let back := 0 - index.toUInt64
    if back ≤ length then length - back else 0
  else min index.toUInt64 length

/-- The word of a negative index is its magnitude below zero. -/
theorem toNat_sub_toUInt64 {index : Int64} (negative : index.toInt < 0) :
    (0 - index.toUInt64).toNat = index.toInt.natAbs := by
  -- The bits of a negative integer are two to the 64 more than it.
  have read : index.toInt = index.toBitVec.toInt := rfl
  have bits : index.toUInt64.toNat = index.toBitVec.toNat := rfl
  have small := index.toBitVec.isLt
  have sign := index.toBitVec.toInt_eq_toNat_cond
  rw [UInt64.toNat_sub, UInt64.toNat_zero]
  split at sign <;> omega

/-- The word of any other index is the index. -/
theorem toNat_toUInt64 {index : Int64} (natural : ¬index.toInt < 0) :
    index.toUInt64.toNat = index.toInt.toNat := by
  have read : index.toInt = index.toBitVec.toInt := rfl
  have bits : index.toUInt64.toNat = index.toBitVec.toNat := rfl
  have small := index.toBitVec.isLt
  have sign := index.toBitVec.toInt_eq_toNat_cond
  split at sign <;> omega

/-- No computation with words leads beyond 64 bits: the position is the exact one. -/
theorem toNat_wordPosition (length : UInt64) (index : Int64) :
    (wordPosition length index).toNat = position length.toNat index.toInt := by
  -- A negative index is taken back from the length, and any other one stops at the length.
  have sign : index < 0 ↔ index.toInt < 0 := Int64.lt_iff_toInt_lt
  unfold wordPosition position
  by_cases negative : index.toInt < 0
  · have back := toNat_sub_toUInt64 negative
    rw [if_pos (sign.2 negative), if_pos negative, ← back]
    dsimp only
    split
    next inside => exact UInt64.toNat_sub_of_le _ _ inside
    next beyond =>
      rw [UInt64.le_iff_toNat_le] at beyond
      rw [UInt64.toNat_zero]
      omega
  · have least : min index.toUInt64 length =
        if index.toUInt64 ≤ length then index.toUInt64 else length := rfl
    rw [if_neg (mt sign.1 negative), if_neg negative, ← toNat_toUInt64 negative, least]
    split
    next inside => exact (Nat.min_eq_left (UInt64.le_iff_toNat_le.1 inside)).symm
    next beyond =>
      rw [UInt64.le_iff_toNat_le] at beyond
      omega

end Words

/-- A slice has as many elements as there are between its bounds, each at its distance from the lower
one. -/
structure Cuts {α : Type} (start stop : Nat) (elements part : List α) : Prop where
  length_eq : part.length = stop - start
  getElem? : ∀ k < stop - start, part[k]? = elements[start + k]?

/-- The items of a stretch inside a sequence are those between its bounds. -/
theorem cuts_items {α : Type} {elements : List α} (inside : stretch.stop ≤ elements.length) :
    Cuts stretch.start stretch.stop elements (stretch.items elements) where
  length_eq := by
    rw [items, List.length_take, List.length_drop]
    omega
  getElem? k within := by
    rw [items, List.getElem?_take, if_pos within, List.getElem?_drop]

end Stretch

namespace Collection

open Stretch (nearest nearestEnd wordPosition)

/-- A kind of values that are made of elements in a sequence. -/
inductive Sequential : {α : Type} → (List α → Value) → Prop where
  | items : Sequential Value.array
  | codePoints : Sequential fun text : List Char => Value.string (String.ofList text)
  | octets : Sequential Value.bytes

variable {α : Type} {make : List α → Value}

/-- A text is cut like its code points or octets. -/
theorem slice_toValue (text : Text) (low : Int) (high : Option Int) :
    slice low high text.toValue = (ordered (text.slice low high)).map Text.toValue := by
  -- A text is read off its own value, whatever kind it is.
  have read : Collection.text text.toValue = .ok text := by
    cases text with
    | chars text => simp [Collection.text, Text.toValue, Value.toText?]
    | octets data => rfl
  have cut : slice low high text.toValue =
      (Collection.text text.toValue).bind fun text =>
        (ordered (text.slice low high)).bind fun part => .ok part.toValue := by
    cases text <;> rfl
  rw [cut, read, Except.bind]
  cases text.slice low high <;> rfl

/-- A sequence of any kind is cut between the positions that its bounds name. -/
theorem slice_make (sequential : Sequential make) (elements : List α) (low : Int)
    (high : Option Int) :
    slice low high (make elements) =
      (ordered (Stretch.between elements.length low high)).map fun stretch =>
        make (stretch.items elements) := by
  -- An array is cut itself, and a text through its code points or octets.
  cases sequential with
  | items =>
    unfold slice
    dsimp only
    cases Stretch.between elements.length low high <;> rfl
  | codePoints =>
    refine (slice_toValue (.chars elements) low high).trans ?_
    unfold Text.slice Text.length
    cases Stretch.between elements.length low high <;> rfl
  | octets =>
    refine (slice_toValue (.octets elements) low high).trans ?_
    unfold Text.slice Text.length
    cases Stretch.between elements.length low high <;> rfl

/-- A slice with its bounds in order has the elements between them. -/
theorem exists_slice (sequential : Sequential make) (elements : List α) {low : Int}
    {high : Option Int}
    (ordered : nearest elements.length low ≤ nearestEnd elements.length high) :
    ∃ part, slice low high (make elements) = .ok (make part) ∧
      Stretch.Cuts (nearest elements.length low).toNat (nearestEnd elements.length high).toNat
        elements part := by
  -- The bounds cross only if they are not in order.
  cases given : Stretch.between elements.length low high with
  | error crossed =>
    have less := Stretch.exists_between_eq_error_iff.1 ⟨crossed, given⟩
    omega
  | ok stretch =>
    obtain ⟨start, stop, -, inside⟩ := Stretch.of_between_eq_ok given
    refine ⟨stretch.items elements, by rw [slice_make sequential, given]; rfl, ?_⟩
    rw [← start, ← stop]
    exact Stretch.cuts_items inside

/-- A slice whose bounds cross is the error that says so. -/
theorem slice_of_crossed (sequential : Sequential make) (elements : List α) {low : Int}
    {high : Option Int}
    (crossed : nearestEnd elements.length high < nearest elements.length low) :
    ∃ start stop : Nat, slice low high (make elements) =
      .error (.general (.crossedBounds start stop)) := by
  obtain ⟨bounds, given⟩ := Stretch.exists_between_eq_error_iff.2 crossed
  exact ⟨bounds.start, bounds.stop, by rw [slice_make sequential, given]; rfl⟩

/-- The slices up to an index and from it on are the two halves of the sequence. -/
theorem slice_halves (sequential : Sequential make) (elements : List α) (index : Int) :
    slice 0 (some index) (make elements) =
        .ok (make (elements.take (Stretch.position elements.length index))) ∧
      slice index none (make elements) =
        .ok (make (elements.drop (Stretch.position elements.length index))) := by
  -- A slice from the start or to the end has one bound that is given.
  have inside := Stretch.position_le elements.length index
  have first : Stretch.between elements.length 0 (some index) =
      .ok ⟨0, Stretch.position elements.length index⟩ := by
    have start : Stretch.position elements.length 0 = 0 := by simp [Stretch.position]
    simp [Stretch.between, start]
  have second : Stretch.between elements.length index none =
      .ok ⟨Stretch.position elements.length index, elements.length⟩ := by
    simp [Stretch.between, inside]
  constructor
  · rw [slice_make sequential, first]
    rfl
  · rw [slice_make sequential, second]
    have rest : Stretch.items ⟨Stretch.position elements.length index, elements.length⟩ elements =
        elements.drop (Stretch.position elements.length index) :=
      List.take_of_length_le (Nat.le_of_eq List.length_drop)
    exact congrArg (fun part => Except.ok (make part)) rest

section Index

variable {items : List Value} {index : Int}

/-- What stands at an index is found where the index leads, counted from the end if it is negative. -/
theorem index_array (index : Int) (items : List Value) :
    Collection.index index (.array items) =
      let position := if index < 0 then items.length + index else index
      match if position < 0 then none else items[position.toNat]? with
      | some item => .ok item
      | none => .error (.general (.indexOutOfBounds index items.length)) :=
  rfl

/-- The item at an index inside an array is the one at the position that the index names. -/
theorem index_inside (least : -(items.length : Int) ≤ index) (greatest : index < items.length) :
    ∃ item, Collection.index index (.array items) = .ok item ∧
      items.drop (Stretch.position items.length index) =
        item :: items.drop (Stretch.position items.length index + 1) := by
  have nearest := Stretch.position_eq_nearest items.length index
  have inside : Stretch.position items.length index < items.length := by
    unfold Stretch.nearest at nearest
    split at nearest <;> omega
  refine ⟨items[Stretch.position items.length index], ?_, List.drop_eq_getElem_cons inside⟩
  -- The index leads to the position that it names, as no end of the array bounds it.
  have leads : (if index < 0 then (items.length : Int) + index else index) =
      Stretch.position items.length index := by
    unfold Stretch.nearest at nearest
    split at nearest <;> omega
  rw [index_array]
  simp only [leads, Int.toNat_natCast, List.getElem?_eq_getElem inside]
  rw [if_neg (by omega)]

/-- There is no item at another index. -/
theorem index_outside (outside : ¬(-(items.length : Int) ≤ index ∧ index < items.length)) :
    Collection.index index (.array items) =
      .error (.general (.indexOutOfBounds index items.length)) := by
  rw [index_array]
  generalize leads : (if index < 0 then (items.length : Int) + index else index) = position
  -- An item would stand at a position inside the array, and no such index leads there.
  have none : (if position < 0 then none else items[position.toNat]?) = none := by
    split
    next => rfl
    next natural =>
      rw [List.getElem?_eq_none_iff]
      split at leads <;> omega
  simp only [none]

end Index

/-- Slices are cut cleanly, and an index agrees with the slice from it on. The bounds of a slice name
the positions nearest to them, which words of 64 bits suffice to find; they cross, and there is no
slice, or they are in order and inside the sequence, and the slice has the elements between them. The
slices up to an index and from it on are the whole together. An item of an array is the first one of
the slice from its index on, and no item stands at an index that leads out of the array. -/
theorem slice_cuts :
    (∀ (length : Nat) (low : Int64) (high : Option Int64),
      ((∃ crossed, Stretch.between length low.toInt (high.map Int64.toInt) = .error crossed) ↔
        nearestEnd length (high.map Int64.toInt) < nearest length low.toInt) ∧
      ∀ stretch, Stretch.between length low.toInt (high.map Int64.toInt) = .ok stretch →
        (stretch.start : Int) = nearest length low.toInt ∧
        (stretch.stop : Int) = nearestEnd length (high.map Int64.toInt) ∧
        stretch.start ≤ stretch.stop ∧ stretch.stop ≤ length) ∧
    (∀ (length : UInt64) (index : Int64),
      (wordPosition length index).toNat = Stretch.position length.toNat index.toInt) ∧
    (∀ (α : Type) (make : List α → Value), Sequential make → ∀ (elements : List α),
      (∀ (low : Int64) (high : Option Int64),
        if nearest elements.length low.toInt ≤ nearestEnd elements.length (high.map Int64.toInt) then
          ∃ part, slice low.toInt (high.map Int64.toInt) (make elements) = .ok (make part) ∧
            Stretch.Cuts (nearest elements.length low.toInt).toNat
              (nearestEnd elements.length (high.map Int64.toInt)).toNat elements part
        else ∃ start stop : Nat, slice low.toInt (high.map Int64.toInt) (make elements) =
          .error (.general (.crossedBounds start stop))) ∧
      ∀ index : Int64, ∃ front back, slice 0 (some index.toInt) (make elements) = .ok (make front) ∧
        slice index.toInt none (make elements) = .ok (make back) ∧ front ++ back = elements) ∧
    ∀ (items : List Value) (index : Int64),
      if -(items.length : Int) ≤ index.toInt ∧ index.toInt < items.length then
        ∃ item rest, Collection.index index.toInt (.array items) = .ok item ∧
          slice index.toInt none (.array items) = .ok (.array (item :: rest))
      else Collection.index index.toInt (.array items) =
        .error (.general (.indexOutOfBounds index.toInt items.length)) := by
  -- Each part is one of the lemmas above, with the bounds read as integers.
  refine ⟨fun length low high => ⟨Stretch.exists_between_eq_error_iff, fun stretch =>
    Stretch.of_between_eq_ok⟩, Stretch.toNat_wordPosition, fun α make sequential elements =>
      ⟨fun low high => ?_, fun index => ?_⟩, fun items index => ?_⟩
  · split
    next ordered => exact exists_slice sequential elements ordered
    next crossed => exact slice_of_crossed sequential elements (Int.not_le.1 crossed)
  · obtain ⟨first, second⟩ := slice_halves sequential elements index.toInt
    exact ⟨_, _, first, second, List.take_append_drop _ _⟩
  · split
    next inside =>
      obtain ⟨item, found, first⟩ := index_inside inside.1 inside.2
      have rest := (slice_halves .items items index.toInt).2
      exact ⟨item, _, found, rest.trans (by rw [first])⟩
    next outside => exact index_outside outside

/-- An index far before the start of a word cuts off nothing, and the last item of an array is the
whole slice from its index on. -/
theorem slice_cuts_word :
    Sequential (fun text : List Char => Value.string (String.ofList text)) ∧
    (∃ front back,
      slice 0 (some (-9223372036854775808)) (.string "né") = .ok (.string (String.ofList front)) ∧
      slice (-9223372036854775808) none (.string "né") = .ok (.string (String.ofList back)) ∧
      front ++ back = ['n', 'é']) ∧
    (-(2 : Int) ≤ -1 ∧ (-1 : Int) < 2) ∧
    ∃ item rest, Collection.index (-1) (.array [.int 1, .int 2]) = .ok item ∧
      slice (-1) none (.array [.int 1, .int 2]) = .ok (.array (item :: rest)) := by
  obtain ⟨-, -, parts, items⟩ := slice_cuts
  refine ⟨.codePoints, ?_, by decide, ?_⟩
  · exact (parts _ _ .codePoints ['n', 'é']).2 (-9223372036854775808)
  · exact items [.int 1, .int 2] (-1)

end Collection

end Reshape
