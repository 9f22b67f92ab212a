import Mathlib.Data.List.Infix
import Reshape.Proofs.Value.Fields
import Reshape.Value.Path

/-!
Paths through objects: what is left of them after a write or a deletion. A path through an array is
not among them, as its positions move when an item is deleted.
-/

namespace Reshape.Value

/-- The value at a path that leads through objects only. -/
def field? : List String → Value → Option Value
  | [], value => some value
  | segment :: rest, .object fields => (Fields.get? segment fields).bind (field? rest)
  | _ :: _, _ => none

/-- Reading a path and then another one is reading the path of both. -/
theorem getOrNull_append (path later : List String) (value : Value) :
    value.getOrNull (path ++ later) = (value.getOrNull path).getOrNull later := by
  -- Nothing is found in a null, so a path that ends early gives null for the rest as well.
  have null (path : List String) : Value.getOrNull path .null = .null := by
    cases path <;> rfl
  unfold getOrNull
  induction path generalizing value with
  | nil => rfl
  | cons segment rest ih =>
    rw [List.cons_append, get?, get?]
    cases value.child? segment with
    | some inner => exact ih inner
    | none => exact (null later).symm

/-- Two paths part: neither leads through the other. -/
def Part (path other : List String) : Prop := ¬ path <+: other ∧ ¬ other <+: path

/-- Paths that part behind a common segment part before it. -/
theorem Part.tail {segment : String} {path other : List String}
    (part : Part (segment :: path) (segment :: other)) : Part path other := by
  simpa [Part, List.cons_prefix_cons] using part

variable {path other : List String}

/-- A path that leads through no array leads through objects. -/
theorem get?_eq_field? {value : Value}
    (clear : ∀ front items, front <+: path → front ≠ path → value.get? front ≠ some (.array items)) :
    value.get? path = value.field? path := by
  induction path generalizing value with
  | nil => rfl
  | cons segment rest ih =>
    -- The value itself is no array, and what its segment leads to is clear for the rest.
    have whole (items : List Value) : value ≠ .array items := by
      simpa [get?] using clear [] items (List.nil_prefix) (by simp)
    cases value with
    | array items => exact absurd rfl (whole items)
    | object fields =>
      simp only [get?, field?, child?]
      cases found : Fields.get? segment fields with
      | none => rfl
      | some inner =>
        refine ih fun front items before shorter => ?_
        have clear := clear (segment :: front) items (by simpa using before) (by simpa using shorter)
        simpa [get?, child?, found] using clear
    | _ => rfl

/-- What is left of an array after a deletion is an array. -/
theorem eq_array_of_delete? {items : List Value} {result : Value}
    (deleted : delete? path (.array items) = some result) : ∃ items', result = .array items' := by
  match path with
  | [] => cases deleted
  | [segment] =>
    obtain ⟨index, _, deleted⟩ := Option.bind_eq_some_iff.1 deleted
    split at deleted
    · exact ⟨_, (Option.some.inj deleted).symm⟩
    · cases deleted
  | segment :: next :: rest =>
    -- An item is replaced by what is left of it.
    obtain ⟨index, _, deleted⟩ := Option.bind_eq_some_iff.1 deleted
    obtain ⟨item, _, deleted⟩ := Option.bind_eq_some_iff.1 deleted
    obtain ⟨item', _, deleted⟩ := Option.bind_eq_some_iff.1 deleted
    exact ⟨_, (Option.some.inj deleted).symm⟩

/-- Only objects and arrays have something to delete in them. -/
theorem isMarker_of_delete? {value result : Value} (deleted : delete? path value = some result) :
    value.isMarker = false ∧ result.isMarker = false := by
  -- An array stays an array and an object an object, at whatever depth something is deleted.
  cases value with
  | array items =>
    obtain ⟨items', rfl⟩ := eq_array_of_delete? deleted
    exact ⟨rfl, rfl⟩
  | object fields =>
    match path with
    | [] => cases deleted
    | [segment] =>
      obtain ⟨inner, _, rfl⟩ := Option.map_eq_some_iff.1 deleted
      exact ⟨rfl, rfl⟩
    | segment :: next :: rest =>
      obtain ⟨inner, _, deleted⟩ := Option.bind_eq_some_iff.1 deleted
      obtain ⟨inner', _, deleted⟩ := Option.bind_eq_some_iff.1 deleted
      obtain rfl := Option.some.inj deleted
      exact ⟨rfl, rfl⟩
  | _ => match path with
    | [] | [_] | _ :: _ :: _ => cases deleted

/-- There is nothing to delete in a marker. -/
theorem deletePath_of_isMarker {value : Value} (marker : value.isMarker = true) :
    value.deletePath path = value := by
  unfold deletePath
  cases deleted : delete? path value with
  | none => rfl
  | some result => simp [isMarker_of_delete? deleted] at marker

/-- A deletion leaves a marker only of that marker. -/
theorem deletePath_eq_of_isMarker {value : Value}
    (marker : (value.deletePath path).isMarker = true) : value.deletePath path = value := by
  unfold deletePath at marker ⊢
  cases deleted : delete? path value with
  | none => rfl
  | some result => simp [deleted, isMarker_of_delete? deleted] at marker

/-- A write further inside makes no marker. -/
theorem isMarker_set (nonempty : path ≠ []) (new value : Value) :
    (set path new value).isMarker = false := by
  -- A write makes an object, unless it reaches a position of an array.
  cases path with
  | nil => exact absurd rfl nonempty
  | cons segment rest =>
    cases value with
    | array items =>
      simp only [set]
      split <;> rfl
    | _ => rfl

/-- What is left of an object after a deletion further inside it than its fields. -/
theorem deletePath_object (segment next : String) (rest : List String) (fields : Fields Value) :
    (Value.object fields).deletePath (segment :: next :: rest) =
      match fields.get? segment with
      | none => .object fields
      | some inner =>
        if (inner.delete? (next :: rest)).isSome then
          .object (fields.insert segment (inner.deletePath (next :: rest)))
        else .object fields := by
  unfold deletePath
  cases found : Fields.get? segment fields with
  | none => simp [delete?, found]
  | some inner => cases deleted : delete? (next :: rest) inner <;> simp [delete?, found, deleted]

/-- No path through objects leads into what is left of an array. -/
theorem field?_deletePath_array (segment : String) (rest : List String) (items : List Value) :
    ((Value.array items).deletePath other).field? (segment :: rest) = none := by
  unfold deletePath
  -- A deletion that fails leaves the array, and one that succeeds leaves an array as well.
  cases deleted : delete? other (.array items) with
  | none => rfl
  | some result =>
    obtain ⟨items', rfl⟩ := eq_array_of_delete? deleted
    rfl

/-- Nothing is left at a path that is deleted. -/
theorem field?_deletePath_self (nonempty : path ≠ []) (value : Value) :
    (value.deletePath path).field? path = none := by
  induction path generalizing value with
  | nil => exact absurd rfl nonempty
  | cons segment rest ih =>
    cases value with
    | object fields =>
      cases rest with
      | nil =>
        cases found : Fields.get? segment fields <;> simp [deletePath, delete?, field?, found]
      | cons next rest =>
        rw [deletePath_object]
        cases found : Fields.get? segment fields with
        | none => simp [field?, found]
        | some inner =>
          have ih := ih (by simp) inner
          -- If there is nothing to delete further inside, nothing was at the path.
          cases deleted : inner.delete? (next :: rest) with
          | none => simpa [deletePath, field?, found, deleted] using ih
          | some inner' => simpa [deletePath, field?, deleted] using ih
    | array items => exact field?_deletePath_array segment rest items
    | _ => cases rest <;> rfl

/-- A deletion puts nothing at a path. -/
theorem field?_deletePath {value : Value} (absent : value.field? path = none) :
    (value.deletePath other).field? path = none := by
  -- The two paths are followed together as long as their segments are the same.
  induction other generalizing path value with
  | nil => exact absent
  | cons deleted others ih =>
    cases path with
    | nil => cases absent
    | cons segment rest =>
      cases value with
      | object fields =>
        cases others with
        | nil =>
          cases found : Fields.get? deleted fields with
          | none => simpa [deletePath, delete?, found] using absent
          | some inner =>
            by_cases same : segment = deleted
            · subst same
              simp [deletePath, delete?, field?, found]
            · simpa [deletePath, delete?, field?, found, Fields.get?_erase_of_ne same] using absent
        | cons next others =>
          rw [deletePath_object]
          cases found : Fields.get? deleted fields with
          | none => simpa [found] using absent
          | some inner =>
            dsimp only
            split
            · by_cases same : segment = deleted
              · subst same
                simp only [field?, Fields.get?_insert_self, Option.bind_some]
                exact ih (by simpa [field?, found] using absent)
              · simpa [field?, Fields.get?_insert_of_ne same] using absent
            · exact absent
      | array items => exact field?_deletePath_array segment rest items
      | _ => cases others <;> rfl

/-- A write puts nothing at a path that parts from its own. -/
theorem field?_set (part : Part path other) (new : Value) {value : Value}
    (absent : value.field? path = none) : (set other new value).field? path = none := by
  induction path generalizing other value with
  | nil => cases absent
  | cons segment rest ih =>
    cases other with
    | nil => exact absurd List.nil_prefix part.2
    | cons written others =>
      -- Whatever the value was, the slot of the write is in an object with these fields.
      have fresh (fields : Fields Value)
          (absent : (Value.object fields).field? (segment :: rest) = none) :
          (Value.object (fields.insert written
            (set others new ((fields.get? written).getD .null)))).field? (segment :: rest) =
              none := by
        by_cases same : segment = written
        · subst same
          simp only [field?, Fields.get?_insert_self, Option.bind_some]
          refine ih part.tail ?_
          cases found : fields.get? segment with
          | none =>
            cases rest with
            | nil => exact absurd (by simp) part.1
            | cons next rest => rfl
          | some inner => simpa [field?, found] using absent
        · simpa [field?, Fields.get?_insert_of_ne same] using absent
      cases value with
      | object fields => exact fresh fields absent
      | array items =>
        simp only [set]
        split
        · rfl
        · exact fresh [] rfl
      | _ => exact fresh [] rfl

end Reshape.Value
