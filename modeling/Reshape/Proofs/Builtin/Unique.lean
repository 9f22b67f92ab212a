import Mathlib.Data.List.Sort
import Reshape.Builtin.Collection
import Reshape.Proofs.Value.Equality

/-!
Arrays without repeated items. An item is left out just if it equals one that was kept before it.
A value need not equal itself, nor what equals something that equals it, so that what is kept
depends on the order of the items. Still only one choice of items leaves no two equal ones and has
one before every item that is left out that equals it, and what this choice keeps is kept once more.

All this holds of every way to compare items for which it does not matter which one comes first. So
it holds of values as they are stored too, where an object that is stored once may equal itself
even if it holds what is no number.
-/

namespace Reshape.Collection

section Scan

variable {α : Type} {equal : α → α → Bool}

/-- The items at some positions represent all items: no two of them are equal, and each item that is
left out equals one of them that stands before it. -/
structure Represents (equal : α → α → Bool) (items : List α) (chosen : List Nat) (kept : List α) :
    Prop where
  ascending : chosen.Pairwise (· < ·)
  /-- What is kept stands at the chosen positions, in order. -/
  reads : chosen.map (items[·]?) = kept.map some
  unequal : kept.Pairwise fun a b => equal a b = false ∧ equal b a = false
  replaced : ∀ position item, items[position]? = some item → position ∉ chosen →
    ∃ earlier ∈ chosen, earlier < position ∧
      ∃ other, items[earlier]? = some other ∧ equal other item = true

namespace Represents

variable {items kept : List α} {chosen : List Nat}

/-- A chosen position is one of the items. -/
theorem exists_item (represents : Represents equal items chosen kept) {position : Nat}
    (member : position ∈ chosen) : ∃ item ∈ kept, items[position]? = some item := by
  have listed : items[position]? ∈ kept.map some := by
    rw [← represents.reads]
    exact List.mem_map_of_mem member
  obtain ⟨item, inside, same⟩ := List.mem_map.1 listed
  exact ⟨item, inside, same.symm⟩

/-- What is kept stands at a chosen position. -/
theorem exists_position (represents : Represents equal items chosen kept) {item : α}
    (member : item ∈ kept) : ∃ position ∈ chosen, items[position]? = some item := by
  have listed : some item ∈ chosen.map (items[·]?) := by
    rw [represents.reads]
    exact List.mem_map_of_mem member
  exact List.mem_map.1 listed

/-- Chosen positions are those of items. -/
theorem lt_length (represents : Represents equal items chosen kept) {position : Nat}
    (member : position ∈ chosen) : position < items.length := by
  obtain ⟨item, _, found⟩ := represents.exists_item member
  exact (List.getElem?_eq_some_iff.1 found).1

/-- The items at two chosen positions are unequal. -/
theorem unequal_at (represents : Represents equal items chosen kept) {earlier position : Nat}
    (first : earlier ∈ chosen) (second : position ∈ chosen) (apart : earlier ≠ position)
    {a b : α} (given : items[earlier]? = some a) (given' : items[position]? = some b) :
    equal a b = false := by
  -- The relation is the same from both sides, so that it holds of all pairs if it holds of those in
  -- order.
  let Unequal (o o' : Option α) : Prop := ∀ a b, o = some a → o' = some b →
    equal a b = false ∧ equal b a = false
  have symmetric : Std.Symm fun p q : Nat => Unequal (items[p]?) (items[q]?) :=
    ⟨fun _ _ unequal a b given given' => (unequal b a given' given).symm⟩
  have pairs : (kept.map some).Pairwise Unequal := by
    refine List.pairwise_map.2 (represents.unequal.imp ?_)
    rintro a b unequal _ _ ⟨⟩ ⟨⟩
    exact unequal
  rw [← represents.reads, List.pairwise_map] at pairs
  exact (pairs.forall first second apart a b given given').1

/-- A position is chosen just if its item equals none at a chosen position before it. -/
theorem mem_iff (represents : Represents equal items chosen kept) {position : Nat} {item : α}
    (given : items[position]? = some item) :
    position ∈ chosen ↔ ∀ earlier ∈ chosen, earlier < position →
      ∀ other, items[earlier]? = some other → equal other item = false := by
  constructor
  · intro member earlier first before other found
    exact represents.unequal_at first member (Nat.ne_of_lt before) found given
  · intro unequal
    -- An item that is left out has an equal one at a chosen position before it.
    by_contra missing
    obtain ⟨earlier, first, before, other, found, same⟩ :=
      represents.replaced position item given missing
    rw [unequal earlier first before other found] at same
    cases same

/-- Only one choice of positions represents the items. -/
theorem chosen_eq {kept' : List α} {chosen' : List Nat}
    (represents : Represents equal items chosen kept)
    (represents' : Represents equal items chosen' kept') : chosen = chosen' := by
  -- Whether a position is chosen depends on those before it only.
  have same : ∀ position, position < items.length → (position ∈ chosen ↔ position ∈ chosen') := by
    intro position
    induction position using Nat.strong_induction_on with
    | _ position ih =>
      intro inside
      have given : items[position]? = some items[position] := List.getElem?_eq_getElem inside
      rw [represents.mem_iff given, represents'.mem_iff given]
      refine forall_congr' fun earlier => ?_
      constructor
      · intro unequal first before
        exact unequal ((ih earlier before (represents'.lt_length first)).2 first) before
      · intro unequal first before
        exact unequal ((ih earlier before (represents.lt_length first)).1 first) before
  refine represents.ascending.eq_of_mem_iff represents'.ascending fun position => ?_
  constructor
  · exact fun member => (same position (represents.lt_length member)).1 member
  · exact fun member => (same position (represents'.lt_length member)).2 member

/-- Only one subsequence of the items represents them. -/
theorem kept_eq {kept' : List α} {chosen' : List Nat}
    (represents : Represents equal items chosen kept)
    (represents' : Represents equal items chosen' kept') : kept = kept' := by
  have reads := represents.reads
  rw [represents.chosen_eq represents', represents'.reads] at reads
  exact (List.map_injective_iff.2 (Option.some_injective _) reads).symm

/-- Without items there is nothing to represent. -/
theorem nil : Represents equal [] [] [] where
  ascending := .nil
  reads := rfl
  unequal := .nil
  replaced position item given := by simp at given

/-- A further item that equals one that is kept is represented by it. -/
theorem skip (represents : Represents equal items chosen kept) {item : α}
    (repeated : ∃ other ∈ kept, equal other item = true) :
    Represents equal (items ++ [item]) chosen kept where
  ascending := represents.ascending
  reads := by
    -- The chosen positions are before the further item.
    rw [← represents.reads]
    refine List.map_congr_left fun position member => ?_
    exact List.getElem?_append_left (represents.lt_length member)
  unequal := represents.unequal
  replaced := by
    intro position other given missing
    rcases Nat.lt_or_ge position items.length with inside | behind
    · rw [List.getElem?_append_left inside] at given
      obtain ⟨earlier, first, before, found⟩ := represents.replaced position other given missing
      have stays : (items ++ [item])[earlier]? = items[earlier]? :=
        List.getElem?_append_left (by omega)
      exact ⟨earlier, first, before, stays ▸ found⟩
    · -- The position is that of the further item, which something before it equals.
      rw [List.getElem?_append_right behind, List.getElem?_singleton] at given
      split at given
      next last =>
        obtain rfl := Option.some.inj given
        obtain ⟨other, member, same⟩ := repeated
        obtain ⟨earlier, first, found⟩ := represents.exists_position member
        have before := represents.lt_length first
        refine ⟨earlier, first, by omega, other, ?_, same⟩
        rw [List.getElem?_append_left before, found]
      next => cases given

/-- A further item that equals none that is kept is kept as well. -/
theorem take (symmetric : ∀ a b, equal a b = equal b a)
    (represents : Represents equal items chosen kept) {item : α}
    (new : ∀ other ∈ kept, equal other item = false) :
    Represents equal (items ++ [item]) (chosen ++ [items.length]) (kept ++ [item]) where
  ascending := by
    refine List.pairwise_append.2 ⟨represents.ascending, List.pairwise_singleton _ _, ?_⟩
    intro position member last same
    rw [List.mem_singleton.1 same]
    exact represents.lt_length member
  reads := by
    have front : chosen.map ((items ++ [item])[·]?) = chosen.map (items[·]?) :=
      List.map_congr_left fun position member =>
        List.getElem?_append_left (represents.lt_length member)
    simp [front, represents.reads]
  unequal := by
    refine List.pairwise_append.2 ⟨represents.unequal, List.pairwise_singleton _ _, ?_⟩
    intro other member last same
    rw [List.mem_singleton.1 same]
    exact ⟨new other member, (symmetric item other).trans (new other member)⟩
  replaced := by
    intro position other given missing
    -- The position of the further item is chosen, so that it has to be one of those before.
    have inside : position < items.length := by
      have bound := (List.getElem?_eq_some_iff.1 given).1
      simp only [List.length_append, List.length_singleton] at bound
      simp only [List.mem_append, List.mem_singleton, not_or] at missing
      omega
    rw [List.getElem?_append_left inside] at given
    obtain ⟨earlier, first, before, found⟩ := represents.replaced position other given
      fun member => missing (List.mem_append_left _ member)
    have stays : (items ++ [item])[earlier]? = items[earlier]? :=
      List.getElem?_append_left (by omega)
    exact ⟨earlier, List.mem_append_left _ first, before, stays ▸ found⟩

/-- Items of which no two are equal represent themselves. -/
theorem self (unequal : kept.Pairwise fun a b => equal a b = false ∧ equal b a = false) :
    Represents equal kept (List.range kept.length) kept where
  ascending := List.pairwise_lt_range
  reads := by
    refine List.ext_getElem? fun position => ?_
    rcases Nat.lt_or_ge position kept.length with inside | behind
    · simp [inside]
    · simp [behind]
  unequal := unequal
  -- All positions are chosen, so that none is replaced.
  replaced position item given missing :=
    absurd (List.mem_range.2 (List.getElem?_eq_some_iff.1 given).1) missing

end Represents

/-- The scan keeps to its invariant: what it has kept represents the items that it has passed. -/
theorem represents_distinct (symmetric : ∀ a b, equal a b = equal b a) {passed kept : List α}
    {chosen : List Nat} (items : List α) (represents : Represents equal passed chosen kept.reverse) :
    ∃ chosen', Represents equal (passed ++ items) chosen' (distinct equal kept items) := by
  -- Each item moves from the rest to the end of what is passed.
  induction items generalizing passed kept chosen with
  | nil =>
    rw [List.append_nil, distinct]
    exact ⟨chosen, represents⟩
  | cons item rest ih =>
    rw [List.append_cons passed item rest, distinct]
    split
    next repeated => exact ih (represents.skip (List.any_eq_true.1 repeated))
    next new =>
      have unequal : ∀ other ∈ kept.reverse, equal other item = false := by
        simpa [List.any_eq_true] using new
      exact ih (by simpa using represents.take symmetric unequal)

/-- What is kept of items represents them. -/
theorem represents_uniqueBy (symmetric : ∀ a b, equal a b = equal b a) (items : List α) :
    ∃ chosen, Represents equal items chosen (uniqueBy equal items) := by
  have start : Represents equal [] [] ([] : List α).reverse := .nil
  exact represents_distinct symmetric items start

/-- The scan keeps the same of items and of what they stand for, if comparing comes to the same. -/
theorem distinct_map {β : Type} {equal' : β → β → Bool} (value : α → β) (kept : List α)
    {items : List α} (agrees : ∀ a ∈ kept ++ items, ∀ b ∈ kept ++ items,
      equal a b = equal' (value a) (value b)) :
    distinct equal' (kept.map value) (items.map value) = (distinct equal kept items).map value := by
  -- An item joins those that are kept or is dropped, on both sides alike.
  induction items generalizing kept with
  | nil => simp [distinct]
  | cons item rest ih =>
    have among {c : α} (member : c ∈ item :: (kept ++ rest)) : c ∈ kept ++ item :: rest :=
      List.perm_middle.symm.subset member
    have repeated : ((kept.map value).reverse.any fun other => equal' other (value item)) =
        kept.reverse.any fun other => equal other item := by
      rw [← List.map_reverse, List.any_map, Bool.eq_iff_iff, List.any_eq_true, List.any_eq_true]
      refine exists_congr fun other => and_congr_right fun member => ?_
      have place : other ∈ kept ++ item :: rest :=
        List.mem_append_left _ (List.mem_reverse.1 member)
      rw [Function.comp_apply, agrees other place item (among (.head _))]
    rw [List.map_cons, distinct, distinct, repeated]
    split
    next =>
      exact ih kept fun a first b second =>
        agrees a (among (.tail _ first)) b (among (.tail _ second))
    next => exact ih (item :: kept) fun a first b second => agrees a (among first) b (among second)

/-- The items that are kept of an array represent all items, and no other choice of them does; once
more, all of them are kept. This holds of every way to compare items that does not depend on which
one comes first, and it is what the method does with their values where the comparison is that of
the values. -/
theorem unique_represents (equal : α → α → Bool) (symmetric : ∀ a b, equal a b = equal b a)
    (items : List α) :
    (∃ chosen, Represents equal items chosen (uniqueBy equal items) ∧
      ∀ chosen' kept', Represents equal items chosen' kept' →
        chosen' = chosen ∧ kept' = uniqueBy equal items) ∧
    uniqueBy equal (uniqueBy equal items) = uniqueBy equal items ∧
    ∀ value : α → Value, (∀ a ∈ items, ∀ b ∈ items, equal a b = (value a == value b)) →
      unique (.array (items.map value)) = .ok (.array ((uniqueBy equal items).map value)) := by
  obtain ⟨chosen, represents⟩ := represents_uniqueBy symmetric items
  refine ⟨⟨chosen, represents, fun chosen' kept' represents' => ?_⟩, ?_, fun value agrees => ?_⟩
  · exact ⟨represents'.chosen_eq represents, represents'.kept_eq represents⟩
  · -- What is kept represents itself, and so does what is kept of it.
    obtain ⟨again, represents'⟩ := represents_uniqueBy symmetric (uniqueBy equal items)
    exact represents'.kept_eq (.self represents.unequal)
  · have kept : uniqueBy (· == ·) (items.map value) = (uniqueBy equal items).map value :=
      distinct_map value [] agrees
    rw [← kept]
    rfl

/-- Two of three integers are rounded to the number between them: it is left out for the first, and
the last one is kept, as it equals the number only. What is no number equals not even itself. -/
example :
    let between := Binary64.ofInt 9007199254740992
    unique (.array [.int 9007199254740993, .float between, .int 9007199254740992, .float .nan,
      .array [.float .nan], .float .nan]) =
    .ok (.array [.int 9007199254740993, .int 9007199254740992, .float .nan, .array [.float .nan],
      .float .nan]) := by
  rfl

end Scan

section Sample

/-- An object as it is stored: the place in memory, and the fields. -/
structure Stored where
  /-- Where the object is stored. -/
  place : Nat
  /-- What it holds. -/
  fields : Fields Value

/-- Whether two objects are stored in one place or hold the same. -/
def Stored.equal (a b : Stored) : Bool :=
  a.place == b.place || Value.object a.fields == Value.object b.fields

/-- It does not matter which of two stored objects comes first. -/
theorem Stored.equal_comm (a b : Stored) : a.equal b = b.equal a := by
  have value : (Value.object a.fields == Value.object b.fields) =
      (Value.object b.fields == Value.object a.fields) := Value.equals_comm _ _
  rw [equal, equal, value, Bool.beq_comm]

/-- An object with what is no number, as it is stored in a place. -/
def undefinedAt (place : Nat) : Stored := ⟨place, [("a", .float .nan)]⟩

/-- An object that is stored once is kept once, though it holds what is no number. One that holds
the same elsewhere is kept as well. -/
theorem unique_represents_undefinedAt :
    (∀ a b : Stored, a.equal b = b.equal a) ∧
    uniqueBy Stored.equal [undefinedAt 0, undefinedAt 0, undefinedAt 1] =
      [undefinedAt 0, undefinedAt 1] ∧
    (∃ chosen, Represents Stored.equal [undefinedAt 0, undefinedAt 0, undefinedAt 1] chosen
        [undefinedAt 0, undefinedAt 1] ∧
      ∀ chosen' kept', Represents Stored.equal [undefinedAt 0, undefinedAt 0, undefinedAt 1]
        chosen' kept' → chosen' = chosen ∧ kept' = [undefinedAt 0, undefinedAt 1]) := by
  have kept : uniqueBy Stored.equal [undefinedAt 0, undefinedAt 0, undefinedAt 1] =
      [undefinedAt 0, undefinedAt 1] := rfl
  -- The represented items are unique, so that those at hand are the ones.
  obtain ⟨represents, -, -⟩ := unique_represents Stored.equal Stored.equal_comm
    [undefinedAt 0, undefinedAt 0, undefinedAt 1]
  rw [kept] at represents
  exact ⟨Stored.equal_comm, kept, represents⟩

end Sample

end Reshape.Collection
