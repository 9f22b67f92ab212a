import Reshape.Proofs.Value.Fields
import Reshape.Proofs.Value.Path

/-!
Slots: where segments lead in objects and arrays, and what a write or a deletion leaves of a value. A
write gives its path the new value, keeps what stands at every path that parts from its own, and
changes the length of no array. Deleting a path takes one slot out of one container, or nothing at
all: it takes one wherever something can be read, and whatever stands outside the container stays as
it is.
-/

namespace Reshape.Value

/-- A segment names a position of an array. -/
def Holds (value : Value) (segment : String) (items : List Value) (index : Nat) : Prop :=
  value = .array items ∧ Numeral.position? segment = some index ∧ index < items.length

/-- Two segments name the same slot of a value: they are equal, or they name the same position of an
array. -/
def SameSlot (value : Value) (segment other : String) : Prop :=
  segment = other ∨ ∃ items index, value.Holds segment items index ∧ value.Holds other items index

/-- Two paths take the same slots, step by step. -/
inductive SameWay : Value → List String → List String → Prop where
  | nil (value : Value) : SameWay value [] []
  | cons {value : Value} {segment other : String} {path path' : List String}
      (slot : SameSlot value segment other)
      (later : SameWay (value.getOrNull [segment]) path path') :
      SameWay value (segment :: path) (other :: path')

/-- A write with a segment puts an object in the place of a value: an array without the position
that the segment names. -/
def Replaces (value : Value) (segment : String) : Prop :=
  ∃ items, value = .array items ∧ ∀ index, ¬value.Holds segment items index

/-- The fields of an object; nothing else has any. -/
def ownFields : Value → Fields Value
  | .object fields => fields
  | _ => []

section Step

variable {value new : Value} {segment other : String} {rest : List String}

/-- The value in a slot, or null if there is none. -/
theorem getOrNull_singleton (value : Value) (segment : String) :
    value.getOrNull [segment] = (value.child? segment).getD .null := by
  cases found : value.child? segment <;> simp [getOrNull, get?, found]

/-- A position of an array holds its item. -/
theorem Holds.child? {items : List Value} {index : Nat} (holds : value.Holds segment items index) :
    value.child? segment = items[index]? := by
  obtain ⟨rfl, written, -⟩ := holds
  simp [Value.child?, written]

/-- A write to a position of an array changes the item there. -/
theorem Holds.set {items : List Value} {index : Nat} (holds : value.Holds segment items index) :
    Value.set (segment :: rest) new value =
      .array (items.set index (Value.set rest new (value.getOrNull [segment]))) := by
  rw [getOrNull_singleton, holds.child?]
  obtain ⟨rfl, written, within⟩ := holds
  simp [Value.set, written, within]

/-- A write to anything but a position of an array makes a field of an object. -/
theorem set_of_not_holds (free : ∀ items index, ¬value.Holds segment items index) :
    set (segment :: rest) new value =
      .object (value.ownFields.insert segment (set rest new (value.getOrNull [segment]))) := by
  rw [getOrNull_singleton]
  -- Only an array has positions; any other value that is no object is dropped for a new object.
  cases value with
  | array items =>
    have missing : (Numeral.position? segment).bind (fun index => items[index]?) = none := by
      cases written : Numeral.position? segment with
      | none => rfl
      | some index =>
        have beyond : items.length ≤ index := Nat.le_of_not_lt fun within =>
          free items index ⟨rfl, written, within⟩
        simpa using beyond
    have missing' : (Numeral.position? segment).bind
        (fun index => items[index]?.map (index, ·)) = none := by
      cases written : Numeral.position? segment with
      | none => rfl
      | some index => simpa [written] using missing
    simp [set, missing', child?, missing, ownFields, Fields.get?]
  | _ => simp [set, child?, ownFields, Fields.get?]

/-- The values in slots that two segments name alike are the same. -/
theorem SameSlot.getOrNull_eq (slot : SameSlot value segment other) :
    value.getOrNull [other] = value.getOrNull [segment] := by
  rw [getOrNull_singleton, getOrNull_singleton]
  obtain rfl | ⟨items, index, holds, holds'⟩ := slot
  · rfl
  · rw [holds.child?, holds'.child?]

/-- A write changes the slot of its first segment: what the rest of the path makes of the value
there is found under each segment that names the slot. -/
theorem child?_set_of_same (slot : SameSlot value segment other) :
    (set (segment :: rest) new value).child? other =
      some (set rest new (value.getOrNull [segment])) := by
  by_cases free : ∀ items index, ¬value.Holds segment items index
  · -- Outside arrays only equal segments name the same slot.
    obtain rfl | ⟨items, index, holds, -⟩ := slot
    · simp [set_of_not_holds free, child?]
    · exact absurd holds (free items index)
  · simp only [not_forall, not_not] at free
    obtain ⟨items, index, holds⟩ := free
    have written : Numeral.position? other = some index := by
      obtain rfl | ⟨items', index', again, holds'⟩ := slot
      · exact holds.2.1
      · rw [holds'.2.1, ← again.2.1, holds.2.1]
    simp [holds.set, child?, written, holds.2.2]

/-- A write changes no other slot than that of its first segment, unless it replaces an array. -/
theorem child?_set_of_not_same (apart : ¬SameSlot value segment other)
    (kept : ¬value.Replaces segment) :
    (set (segment :: rest) new value).child? other = value.child? other := by
  have different : other ≠ segment := fun same => apart (.inl same.symm)
  by_cases free : ∀ items index, ¬value.Holds segment items index
  · rw [set_of_not_holds free]
    cases value with
    | array items => exact absurd ⟨items, rfl, free items⟩ kept
    | _ => simp [child?, ownFields, Fields.get?_insert_of_ne different, Fields.get?]
  · simp only [not_forall, not_not] at free
    obtain ⟨items, index, holds⟩ := free
    obtain ⟨rfl, written, within⟩ := id holds
    rw [holds.set]
    simp only [child?]
    cases written' : Numeral.position? other with
    | none => rfl
    | some index' =>
      -- A position that is not the same is left as it was.
      have elsewhere : index ≠ index' := by
        rintro rfl
        exact apart (.inr ⟨items, index, holds, rfl, written', within⟩)
      simp [List.getElem?_set_ne elsewhere]

/-- Of an array that a write replaces nothing is left in the other slots. -/
theorem child?_set_of_replaces (apart : ¬SameSlot value segment other)
    (replaces : value.Replaces segment) :
    (set (segment :: rest) new value).child? other = none := by
  have different : other ≠ segment := fun same => apart (.inl same.symm)
  obtain ⟨items, rfl, free⟩ := replaces
  -- The value is replaced by an object, which has the new field alone.
  rw [set_of_not_holds fun items' index holds => by
    cases holds.1
    exact free index holds]
  simp [child?, ownFields, Fields.get?_insert_of_ne different, Fields.get?]

end Step

section Way

variable {value new : Value} {segment other : String}
  {path path' front front' back back' : List String}

/-- A path takes the same slots as itself. -/
theorem SameWay.refl (value : Value) (path : List String) : SameWay value path path := by
  induction path generalizing value with
  | nil => exact .nil value
  | cons segment rest ih => exact .cons (.inl rfl) (ih _)

/-- A path leads on from the value at the end of its beginning. -/
theorem get?_append (front path : List String) (value : Value) :
    value.get? (front ++ path) = (value.get? front).bind (get? path) := by
  induction front generalizing value with
  | nil => rfl
  | cons segment rest ih =>
    simp only [List.cons_append, get?, Option.bind_assoc]
    exact congrArg _ (funext ih)

/-- What is found behind a slot is found in the value there, or in null. -/
theorem get?_cons_cons (segment next : String) (rest : List String) (value : Value) :
    value.get? (segment :: next :: rest) = (value.getOrNull [segment]).get? (next :: rest) := by
  rw [getOrNull_singleton]
  -- Where there is no child, null stands in for it, and null has none either.
  cases found : value.child? segment with
  | some inner => simp [get?, found]
  | none =>
    have empty : Value.null.child? next = none := rfl
    simp [get?, found, empty]

/-- What a write leaves at the end of a beginning of its path is what the rest of the path makes of
the value there. -/
theorem get?_set_of_way (path : List String) (new : Value) (way : SameWay value front front') :
    (set (front ++ path) new value).get? front' = some (set path new (value.getOrNull front)) := by
  induction way with
  | nil value => rfl
  | @cons value segment other front front' slot later ih =>
    -- The two ways lead through the same slot, which is where the new value is set.
    rw [List.cons_append, get?, child?_set_of_same slot, Option.bind_some, ih]
    exact congrArg (fun inner => some (set path new inner))
      (getOrNull_append [segment] front value).symm

/-- A write changes nothing at a path that parts from its own where it does not replace an array. -/
theorem get?_set_of_parts (way : SameWay value front front')
    (apart : ¬SameSlot (value.getOrNull front) segment other)
    (kept : ¬(value.getOrNull front).Replaces segment) :
    (set (front ++ segment :: back) new value).get? (front' ++ other :: back') =
      value.get? (front' ++ other :: back') := by
  induction way with
  | nil value => exact congrArg (Option.bind · _) (child?_set_of_not_same apart kept)
  | @cons value first second front front' slot later ih =>
    rw [← List.singleton_append, getOrNull_append] at apart kept
    -- Behind the first slot the value there is written to, and the rest is read.
    obtain ⟨next, rest, further⟩ : ∃ next rest, front' ++ other :: back' = next :: rest :=
      List.exists_cons_of_ne_nil (by simp)
    have ih := ih apart kept
    rw [further] at ih
    rw [List.cons_append, List.cons_append, further, get?, child?_set_of_same slot,
      Option.bind_some, ih, get?_cons_cons, slot.getOrNull_eq]

/-- An array that a write does not lead through keeps its length if it stays an array. -/
theorem length_eq_of_get?_set {items items' : List Value}
    (free : ∀ front rest, path' = front ++ rest → ¬SameWay value path front)
    (stood : value.get? path' = some (.array items))
    (stands : (set path new value).get? path' = some (.array items')) :
    items'.length = items.length := by
  induction path generalizing value path' with
  | nil => exact absurd (.nil value) (free [] path' rfl)
  | cons segment rest ih =>
    cases path' with
    | nil =>
      obtain rfl := Option.some.inj stood
      replace stands := Option.some.inj stands
      by_cases holds : ∃ index, Value.Holds (.array items) segment items index
      · obtain ⟨index, holds⟩ := holds
        rw [holds.set] at stands
        obtain rfl := Value.array.inj stands
        exact List.length_set
      · rw [set_of_not_holds fun items' index given => holds ⟨index, by cases given.1; exact given⟩]
          at stands
        cases stands
    | cons other further =>
      by_cases slot : SameSlot value segment other
      · -- Behind the same slot the rest of the path is written.
        simp only [get?] at stood stands
        rw [child?_set_of_same slot] at stands
        refine ih (fun front last same way => ?_) ?_ stands
        · exact free (other :: front) last (by rw [same, List.cons_append]) (.cons slot way)
        · obtain ⟨inner, found, stood⟩ := Option.bind_eq_some_iff.1 stood
          rwa [← slot.getOrNull_eq, getOrNull_singleton, found]
      · by_cases kept : value.Replaces segment
        · simp [get?, child?_set_of_replaces slot kept] at stands
        · simp only [get?] at stood stands
          rw [child?_set_of_not_same slot kept, stood] at stands
          obtain rfl := Value.array.inj (Option.some.inj stands)
          rfl

end Way

/-- What a write leaves. At its path stands the new value. A path that parts from it, at a slot of
the value to which both lead, leads to what it led to before; only if that value is an array
without the position that the path of the write names, an object without such a slot takes its
place. And no other array changes its length. -/
theorem get?_set (path : List String) (new value : Value) :
    (∀ rest, (set path new value).get? (path ++ rest) = new.get? rest) ∧
    (∀ front front' segment other back back', path = front ++ segment :: back →
      SameWay value front front' → ¬SameSlot (value.getOrNull front) segment other →
      (¬(value.getOrNull front).Replaces segment →
        (set path new value).get? (front' ++ other :: back') =
          value.get? (front' ++ other :: back')) ∧
      ((value.getOrNull front).Replaces segment →
        (∃ fields, (set path new value).get? front' = some (.object fields)) ∧
          (set path new value).get? (front' ++ other :: back') = none)) ∧
    ∀ path' items items', (∀ front rest, path' = front ++ rest → ¬SameWay value path front) →
      value.get? path' = some (.array items) →
      (set path new value).get? path' = some (.array items') → items'.length = items.length := by
  -- The write reaches its own path; another path parts from it at a slot, and nothing else is
  -- changed.
  refine ⟨fun rest => ?_, ?_, fun path' items items' free stood stands =>
    length_eq_of_get?_set free stood stands⟩
  · have written := get?_set_of_way [] new (SameWay.refl value path)
    rw [List.append_nil] at written
    rw [get?_append, written, Option.bind_some, set]
  · rintro front front' segment other back back' rfl way apart
    refine ⟨get?_set_of_parts way apart, fun replaces => ?_⟩
    have reached := get?_set_of_way (segment :: back) new way
    constructor
    · obtain ⟨items, same, free⟩ := id replaces
      rw [reached, set_of_not_holds fun items' index holds => ?_]
      · exact ⟨_, rfl⟩
      · cases same.symm.trans holds.1
        exact free index holds
    · rw [get?_append, reached, Option.bind_some, get?, child?_set_of_replaces apart replaces,
        Option.bind_none]

/-- A position has many spellings, and one beyond an array makes an object of it. -/
example :
    let items : Value := .array [.int 1, .int 2]
    (set ["+1"] .null items).get? ["01"] = some .null ∧
      (set ["+1"] .null items).get? ["0"] = some (.int 1) ∧
      (set ["2"] .null items).get? ["2"] = some .null ∧
      (set ["2"] .null items).get? ["0"] = none :=
  ⟨rfl, rfl, rfl, rfl⟩

/-- A container has lost the slot of a segment, and nothing else. -/
inductive Loses (segment : String) : Value → Value → Prop where
  | field {fields fields' : Fields Value} (held : (fields.get? segment).isSome = true)
      (lost : fields'.get? segment = none)
      (others : ∀ name, name ≠ segment → fields'.get? name = fields.get? name) :
      Loses segment (.object fields) (.object fields')
  | item {front back : List Value} {item : Value}
      (written : Numeral.position? segment = some front.length) :
      Loses segment (.array (front ++ item :: back)) (.array (front ++ back))

/-- The value at a path is changed, and nothing else. -/
inductive Changed (old new : Value) : List String → Value → Value → Prop where
  | here : Changed old new [] old new
  | field {name : String} {rest : List String} {fields fields' : Fields Value} {inner inner' : Value}
      (found : fields.get? name = some inner) (found' : fields'.get? name = some inner')
      (others : ∀ other, other ≠ name → fields'.get? other = fields.get? other)
      (inside : Changed old new rest inner inner') :
      Changed old new (name :: rest) (.object fields) (.object fields')
  | item {segment : String} {rest : List String} {front back : List Value} {inner inner' : Value}
      (written : Numeral.position? segment = some front.length)
      (inside : Changed old new rest inner inner') :
      Changed old new (segment :: rest) (.array (front ++ inner :: back))
        (.array (front ++ inner' :: back))

section Step

variable {segment : String} {value result inner inner' old new : Value} {rest : List String}

/-- An item stands between the items before it and those behind it. -/
theorem split_of_getElem? {items : List Value} {index : Nat} (found : items[index]? = some inner) :
    ∃ front back, items = front ++ inner :: back ∧ front.length = index := by
  obtain ⟨within, rfl⟩ := List.getElem?_eq_some_iff.1 found
  refine ⟨items.take index, items.drop (index + 1), ?_, List.length_take_of_le within.le⟩
  rw [List.cons_getElem_drop_succ, List.take_append_drop]

/-- Without an item those before it and those behind it are left. -/
theorem eraseIdx_length (front back : List Value) (item : Value) :
    (front ++ item :: back).eraseIdx front.length = front ++ back := by
  rw [List.eraseIdx_append_of_length_le (Nat.le_refl _), Nat.sub_self, List.eraseIdx_cons_zero]

/-- The last segment of a path names what is deleted in the value itself. -/
theorem loses_of_delete? (deleted : delete? [segment] value = some result) :
    Loses segment value result := by
  -- In an object the field goes, and in an array the item with all behind it moving up.
  cases value with
  | object fields =>
    obtain ⟨inner, found, rfl⟩ := Option.map_eq_some_iff.1 deleted
    exact .field (by simp [found]) (Fields.get?_erase_self segment fields)
      fun name different => Fields.get?_erase_of_ne different fields
  | array items =>
    obtain ⟨index, written, deleted⟩ := Option.bind_eq_some_iff.1 deleted
    split at deleted
    next within =>
      obtain rfl := Option.some.inj deleted
      obtain ⟨inner, found⟩ : ∃ inner, items[index]? = some inner := by simp [within]
      obtain ⟨front, back, rfl, rfl⟩ := split_of_getElem? found
      rw [eraseIdx_length]
      exact .item written
    next => cases deleted
  | _ => cases deleted

/-- There is something to delete under a segment if there is something to read. -/
theorem isSome_delete?_singleton (segment : String) (value : Value) :
    (delete? [segment] value).isSome = (value.child? segment).isSome := by
  -- A field is there or not, and so is a position below the length.
  cases value with
  | object fields => exact Option.isSome_map
  | array items =>
    simp only [delete?, child?]
    cases Numeral.position? segment with
    | none => rfl
    | some index =>
      simp only [Option.bind_some]
      split
      next within => simp [within]
      next beyond => simp [Nat.le_of_not_lt beyond]
  | _ => rfl

/-- Further inside, a deletion changes the value in the first slot. -/
theorem delete?_cons_cons (segment next : String) (rest : List String) (value : Value) :
    delete? (segment :: next :: rest) value =
      ((value.child? segment).bind (delete? (next :: rest))).map fun inner =>
        set [segment] inner value := by
  -- What is deleted further inside is put back into the slot.
  cases value with
  | object fields =>
    simp only [delete?, child?, set]
    cases Fields.get? segment fields with
    | none => rfl
    | some inner => cases deleted : delete? (next :: rest) inner <;> simp [deleted]
  | array items =>
    simp only [delete?, child?, set]
    cases Numeral.position? segment with
    | none => rfl
    | some index =>
      simp only [Option.bind_some]
      cases found : items[index]? with
      | none => simp [found]
      | some inner => cases deleted : delete? (next :: rest) inner <;> simp [found, deleted]
  | _ => rfl

/-- A change of the value in a slot changes nothing outside the slot. -/
theorem Changed.cons (found : value.child? segment = some inner)
    (inside : Changed old new rest inner inner') :
    Changed old new (segment :: rest) value (set [segment] inner' value) := by
  -- The slot is a field or a position, and the others stay as they are.
  cases value with
  | object fields =>
    exact .field found (Fields.get?_insert_self segment inner' fields)
      (fun other different => Fields.get?_insert_of_ne different inner' fields) inside
  | array items =>
    obtain ⟨index, written, found⟩ := Option.bind_eq_some_iff.1 found
    obtain ⟨front, back, rfl, rfl⟩ := split_of_getElem? found
    have put : set [segment] inner' (.array (front ++ inner :: back)) =
        .array (front ++ inner' :: back) := by
      simp [set, written]
    rw [put]
    exact .item written inside
  | _ => cases found

/-- The value in a slot has its names in order. -/
theorem Ordered.child? (ordered : value.Ordered) (found : value.child? segment = some inner) :
    inner.Ordered := by
  -- A child is a field of an object or an item of an array.
  cases value with
  | object fields => exact ordered.get? found
  | array items =>
    obtain ⟨index, _, found⟩ := Option.bind_eq_some_iff.1 found
    exact ordered.item inner (List.mem_of_getElem? found)
  | _ => cases found

/-- Names stay in order when the value in a slot is changed. -/
theorem Ordered.setChild (ordered : value.Ordered) (found : value.child? segment = some inner)
    (changed : inner'.Ordered) : (set [segment] inner' value).Ordered := by
  -- A field takes its old place, and a position keeps the names outside of it.
  cases value with
  | object fields => exact ordered.insert changed
  | array items =>
    obtain ⟨index, written, found⟩ := Option.bind_eq_some_iff.1 found
    have put : set [segment] inner' (.array items) = .array (items.set index inner') := by
      simp [set, written, found]
    rw [put]
    refine .array fun item member => ?_
    rcases List.mem_or_eq_of_mem_set member with member | rfl
    · exact ordered.item item member
    · exact changed
  | _ => cases found

/-- Names stay in order when a slot is deleted. -/
theorem Ordered.deleteChild (ordered : value.Ordered)
    (deleted : delete? [segment] value = some result) : result.Ordered := by
  -- Fields that are left keep their order, and so do items.
  cases value with
  | object fields =>
    obtain ⟨inner, _, rfl⟩ := Option.map_eq_some_iff.1 deleted
    exact .object (Fields.ordered_erase ordered.ascending)
      fun field member => ordered.field field (Fields.mem_of_mem_erase member)
  | array items =>
    obtain ⟨index, _, deleted⟩ := Option.bind_eq_some_iff.1 deleted
    split at deleted
    · obtain rfl := Option.some.inj deleted
      exact .array fun item member => ordered.item item (List.mem_of_mem_eraseIdx member)
    · cases deleted
  | _ => cases deleted

end Step

variable {path : List String} {value result : Value}

/-- Names stay in order when something is deleted at a path. -/
theorem Ordered.delete? (ordered : value.Ordered) (deleted : delete? path value = some result) :
    result.Ordered := by
  -- The path is followed inwards, and each level is put back in its slot.
  induction path generalizing value result with
  | nil => simp [Value.delete?] at deleted
  | cons segment rest ih =>
    cases rest with
    | nil => exact ordered.deleteChild deleted
    | cons next rest =>
      rw [delete?_cons_cons] at deleted
      obtain ⟨inner', lost, rfl⟩ := Option.map_eq_some_iff.1 deleted
      obtain ⟨inner, found, lost⟩ := Option.bind_eq_some_iff.1 lost
      exact ordered.setChild found (ih (ordered.child? found) lost)

/-- There is something to delete at a path if the path is not empty and there is something to
read. -/
theorem isSome_delete? (path : List String) (value : Value) :
    (delete? path value).isSome = true ↔ path ≠ [] ∧ (value.get? path).isSome = true := by
  -- Up to the last segment a path is walked in the same way whether it is read or deleted.
  induction path generalizing value with
  | nil => simp [delete?]
  | cons segment rest ih =>
    cases rest with
    | nil =>
      rw [isSome_delete?_singleton]
      cases found : value.child? segment <;> simp [get?, found]
    | cons next rest =>
      rw [delete?_cons_cons, Option.isSome_map, get?]
      cases value.child? segment with
      | none => simp
      | some inner => simpa using ih inner

/-- A deletion takes the slot of the last segment out of the container at the others. -/
theorem changed_of_delete? (deleted : delete? path value = some result) :
    ∃ front segment container container', path = front ++ [segment] ∧
      value.get? front = some container ∧ Loses segment container container' ∧
        Changed container container' front value result := by
  -- The container is found behind the first slot, and the change there is one behind that slot.
  induction path generalizing value result with
  | nil => simp [delete?] at deleted
  | cons segment rest ih =>
    cases rest with
    | nil => exact ⟨[], segment, value, result, rfl, rfl, loses_of_delete? deleted, .here⟩
    | cons next rest =>
      rw [delete?_cons_cons] at deleted
      obtain ⟨inner', lost, rfl⟩ := Option.map_eq_some_iff.1 deleted
      obtain ⟨inner, found, lost⟩ := Option.bind_eq_some_iff.1 lost
      obtain ⟨front, last, container, container', same, reached, loses, changed⟩ := ih lost
      refine ⟨segment :: front, last, container, container', by rw [same, List.cons_append], ?_,
        loses, .cons found changed⟩
      rw [get?, found, Option.bind_some, reached]

/-- A deletion removes one slot. There is something to delete at a path if and only if the path is not
empty and something can be read there; if there is nothing, the value stays as it is; and otherwise
the container at the path without its last segment loses the slot of that segment, and nothing else
changes in it or outside it, names that stood in order standing in order. -/
theorem deletePath_removes (path : List String) (value : Value) :
    ((delete? path value).isSome = true ↔ path ≠ [] ∧ (value.get? path).isSome = true) ∧
    (delete? path value = none → value.deletePath path = value) ∧
    ∀ result, delete? path value = some result → value.deletePath path = result ∧
      (value.Ordered → result.Ordered) ∧
      ∃ front segment container container', path = front ++ [segment] ∧
        value.get? front = some container ∧ Loses segment container container' ∧
          Changed container container' front value result := by
  refine ⟨isSome_delete? path value, fun nothing => ?_, fun result deleted => ⟨?_, ?_, ?_⟩⟩
  · rw [deletePath, nothing, Option.getD_none]
  · rw [deletePath, deleted, Option.getD_some]
  · exact fun ordered => ordered.delete? deleted
  · exact changed_of_delete? deleted

/-- A position has many spellings, and what is no container has no slots. -/
example :
    let items : Value := .array [.int 1, .object [("a", .int 2)], .int 3]
    delete? ["+01", "a"] items = some (.array [.int 1, .object [], .int 3]) ∧
      delete? ["00"] items = some (.array [.object [("a", .int 2)], .int 3]) ∧
      delete? ["1", "a", "b"] items = none ∧ delete? ["3"] items = none :=
  ⟨rfl, rfl, rfl, rfl⟩

end Reshape.Value
