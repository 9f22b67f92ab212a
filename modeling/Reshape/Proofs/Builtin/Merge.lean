import Reshape.Builtin.Collection
import Reshape.Proofs.Value.Fields

/-!
Merging: nothing is lost and nothing is doubled. The leaves of a merged value are those of both
values, however the two are nested, and the names of merged objects are those of both.
-/

namespace Reshape

namespace Value

mutual

/-- The values in a value that are not made of other values, as often as they occur. -/
def leaves : Value → List Value
  | .array items => itemLeaves items
  | .object fields => fieldLeaves fields
  | value => [value]

/-- The leaves of items. -/
def itemLeaves : List Value → List Value
  | [] => []
  | item :: rest => leaves item ++ itemLeaves rest

/-- The leaves of the values of fields. -/
def fieldLeaves : List (String × Value) → List Value
  | [] => []
  | (_, value) :: rest => leaves value ++ fieldLeaves rest

end

/-- The leaves of items are those of the first ones and those of the others. -/
theorem itemLeaves_append (items items' : List Value) :
    itemLeaves (items ++ items') = itemLeaves items ++ itemLeaves items' := by
  induction items with
  | nil => rfl
  | cons item rest ih => rw [List.cons_append, itemLeaves, itemLeaves, ih, List.append_assoc]

/-- The leaves of fields are those of the first ones and those of the others. -/
theorem fieldLeaves_append (fields fields' : List (String × Value)) :
    fieldLeaves (fields ++ fields') = fieldLeaves fields ++ fieldLeaves fields' := by
  induction fields with
  | nil => rfl
  | cons field rest ih => rw [List.cons_append, fieldLeaves, fieldLeaves, ih, List.append_assoc]

/-- The leaves of an array of one item are those of the item. -/
theorem itemLeaves_singleton (item : Value) : itemLeaves [item] = leaves item := by
  rw [itemLeaves, itemLeaves, List.append_nil]

/-- The leaves of an array of two items are those of both. -/
theorem leaves_pair (first second : Value) :
    leaves (.array [first, second]) = leaves first ++ leaves second := by
  rw [leaves, itemLeaves, itemLeaves_singleton]

variable {name : String} {value merged old : Value} {fields : Fields Value}

/-- A new name brings the leaves of its value. -/
theorem fieldLeaves_insert_new (absent : fields.get? name = none) (value : Value) :
    (fieldLeaves (fields.insert name value)).Perm (fieldLeaves fields ++ leaves value) := by
  obtain ⟨front, back, rfl, put⟩ := Fields.split_of_get?_eq_none absent
  rw [put, fieldLeaves_append, fieldLeaves_append, fieldLeaves, List.append_assoc]
  exact .append_left _ List.perm_append_comm

/-- A name that gets more leaves brings those to the others. -/
theorem fieldLeaves_insert_old (ordered : fields.Ordered) (found : fields.get? name = some old)
    (more : (leaves merged).Perm (leaves old ++ leaves value)) :
    (fieldLeaves (fields.insert name merged)).Perm (fieldLeaves fields ++ leaves value) := by
  -- The name keeps its place, and the leaves that come to it go behind all others.
  obtain ⟨front, back, rfl, below, _⟩ := Fields.split_of_get? ordered found
  rw [Fields.insert_append below, fieldLeaves_append, fieldLeaves_append, fieldLeaves, fieldLeaves,
    List.append_assoc]
  refine .append_left _ ((more.append_right _).trans ?_)
  rw [List.append_assoc, List.append_assoc]
  exact .append_left _ List.perm_append_comm

end Value

namespace Collection

open Value

/-- The value that a name gets when another one is merged into fields. -/
def mergedUnder (target : Fields Value) (name : String) (value : Value) : Value :=
  match target.get? name with
  | some existing => merge existing value
  | none => value

/-- Fields are merged one after the other. -/
theorem mergeFields_cons (target : Fields Value) (name : String) (value : Value)
    (rest : List (String × Value)) :
    mergeFields target ((name, value) :: rest) =
      mergeFields (target.insert name (mergedUnder target name value)) rest := by
  rw [mergeFields]
  rfl

/-- What is merged into an array as its items. -/
def asItems : Value → List Value
  | .array items => items
  | value => [value]

/-- Both values are objects. -/
def AreObjects (destination source : Value) : Prop :=
  ∃ target fields, destination = .object target ∧ source = .object fields

/-- Values of which not both are objects come into one array, the items of the first one, if it is
an array, before those of the second one. -/
theorem merge_items {destination source : Value} (different : ¬AreObjects destination source) :
    (∃ items, destination = .array items ∧
        merge destination source = .array (items ++ asItems source)) ∨
      merge destination source = .array [destination, source] := by
  -- Only two objects are merged by their fields, which is excluded here.
  cases destination with
  | array items => exact .inl ⟨items, rfl, by cases source <;> rfl⟩
  | object target =>
    cases source with
    | object fields => exact absurd ⟨target, fields, rfl, rfl⟩ different
    | _ => exact .inr rfl
  | _ => cases source <;> exact .inr rfl

section Items

variable {destination source : Value}

/-- The leaves of a value are those of the items that it is merged as. -/
theorem itemLeaves_asItems (value : Value) : itemLeaves (asItems value) = value.leaves := by
  cases value with
  | array items => rfl
  | _ => exact itemLeaves_singleton _

/-- The items that a value is merged as have their names in order. -/
theorem ordered_asItems (ordered : Ordered source) : ∀ item ∈ asItems source, Ordered item := by
  cases source with
  | array items => exact ordered.item
  | _ => exact List.forall_mem_singleton.2 ordered

/-- Values of which not both are objects are merged to a value with the leaves of both. -/
theorem leaves_merge_items (different : ¬AreObjects destination source) :
    (merge destination source).leaves = destination.leaves ++ source.leaves := by
  rcases merge_items different with ⟨items, rfl, merged⟩ | merged
  · rw [merged, leaves, leaves, itemLeaves_append, itemLeaves_asItems]
  · rw [merged, leaves_pair]

/-- Values of which not both are objects are merged to a value with its names in order. -/
theorem ordered_merge_items (different : ¬AreObjects destination source)
    (first : Ordered destination) (second : Ordered source) : Ordered (merge destination source) := by
  rcases merge_items different with ⟨items, rfl, merged⟩ | merged
  · rw [merged]
    exact .array (List.forall_mem_append.2 ⟨first.item, ordered_asItems second⟩)
  · rw [merged]
    exact .array (List.forall_mem_cons.2 ⟨first, List.forall_mem_singleton.2 second⟩)

end Items

mutual

/-- Merged values have their names in order. -/
theorem ordered_merge {destination : Value} (first : Ordered destination) (source : Value)
    (second : Ordered source) : Ordered (merge destination source) := by
  -- Only an object can meet an object; all else is put into one array.
  match source with
  | .object fields =>
    cases destination with
    | object target => exact ordered_mergeFields first fields second.field
    | _ => exact ordered_merge_items (by simp [AreObjects]) first second
  | .array _ | .null | .bool _ | .int _ | .uint _ | .float _ | .string _ | .bytes _ | .delete
  | .nothing => exact ordered_merge_items (by simp [AreObjects]) first second

/-- Merged fields have their names in order. -/
theorem ordered_mergeFields {target : Fields Value} (first : Ordered (.object target))
    (source : List (String × Value)) (each : ∀ field ∈ source, Ordered field.2) :
    Ordered (.object (mergeFields target source)) := by
  match source with
  | [] => exact first
  | (name, value) :: rest =>
    obtain ⟨inner, each⟩ := List.forall_mem_cons.1 each
    -- What is merged so far has its names in order, which is all that the next field asks for.
    rw [mergeFields_cons]
    refine ordered_mergeFields (first.insert ?_) rest each
    unfold mergedUnder
    split
    next existing found => exact ordered_merge (first.get? found) value inner
    next => exact inner

end

/-- The value that a name gets has its names in order. -/
theorem ordered_mergedUnder {target : Fields Value} (first : Ordered (.object target))
    (name : String) {value : Value} (second : Ordered value) :
    Ordered (mergedUnder target name value) := by
  unfold mergedUnder
  split
  next existing found => exact ordered_merge (first.get? found) value second
  next => exact second

mutual

/-- Merged values have the leaves of both. -/
theorem leaves_merge {destination : Value} (first : Ordered destination) (source : Value)
    (second : Ordered source) :
    (merge destination source).leaves.Perm (destination.leaves ++ source.leaves) := by
  -- Only an object can meet an object; all else is put into one array.
  match source with
  | .object fields =>
    cases destination with
    | object target => exact leaves_mergeFields first fields second.field
    | _ => exact .of_eq (leaves_merge_items (by simp [AreObjects]))
  | .array _ | .null | .bool _ | .int _ | .uint _ | .float _ | .string _ | .bytes _ | .delete
  | .nothing => exact .of_eq (leaves_merge_items (by simp [AreObjects]))

/-- Merged fields have the leaves of both. -/
theorem leaves_mergeFields {target : Fields Value} (first : Ordered (.object target))
    (source : List (String × Value)) (each : ∀ field ∈ source, Ordered field.2) :
    (fieldLeaves (mergeFields target source)).Perm (fieldLeaves target ++ fieldLeaves source) := by
  match source with
  | [] => exact .of_eq (List.append_nil _).symm
  | (name, value) :: rest =>
    obtain ⟨inner, each⟩ := List.forall_mem_cons.1 each
    -- A name of both gets the leaves of both its values, and a new one brings its own.
    have put : (fieldLeaves (target.insert name (mergedUnder target name value))).Perm
        (fieldLeaves target ++ leaves value) := by
      cases found : Fields.get? name target with
      | none =>
        rw [mergedUnder, found]
        exact fieldLeaves_insert_new found value
      | some existing =>
        rw [mergedUnder, found]
        exact fieldLeaves_insert_old first.ascending found
          (leaves_merge (first.get? found) value inner)
    have merged : Ordered (.object (target.insert name (mergedUnder target name value))) :=
      first.insert (ordered_mergedUnder first name inner)
    have others := leaves_mergeFields merged rest each
    rw [mergeFields_cons, fieldLeaves, ← List.append_assoc]
    exact others.trans (put.append_right _)

end

/-- What stands under a name in merged fields. -/
theorem get?_mergeFields {source : Fields Value} (ascending : source.Ordered)
    (target : Fields Value) (name : String) :
    Fields.get? name (mergeFields target source) =
      match target.get? name, source.get? name with
      | some old, some new => some (merge old new)
      | some old, none => some old
      | none, new => new := by
  induction source generalizing target with
  | nil =>
    rw [mergeFields, Fields.get?]
    cases target.get? name <;> rfl
  | cons field rest ih =>
    obtain ⟨other, value⟩ := field
    obtain ⟨above, ascending⟩ := Fields.ordered_cons.1 ascending
    rw [mergeFields_cons, ih ascending]
    by_cases same : other = name
    · subst same
      -- The name does not come again behind its field.
      have absent : Fields.get? other rest = none :=
        Fields.get?_eq_none.2 fun field member => (String.ne_of_lt (above field member)).symm
      rw [Fields.get?_insert_self, absent, Fields.get?, if_pos rfl, mergedUnder]
      cases target.get? other <;> rfl
    · rw [Fields.get?_insert_of_ne (Ne.symm same), Fields.get?, if_neg same]

/-- Merging loses and doubles nothing. The leaves of the merged value are those of both values, as
often as they occur in the two. Two objects are merged to one that has the names of both, where a
name of only one of them keeps its value and a name of both has their values merged; and two arrays
are merged end to end. -/
theorem merge_conserves {destination source : Value} (first : Ordered destination)
    (second : Ordered source) :
    (merge destination source).leaves.Perm (destination.leaves ++ source.leaves) ∧
    (∀ target fields, destination = .object target → source = .object fields →
      ∃ merged, merge destination source = .object merged ∧ Fields.Ordered merged ∧
        ∀ name, Fields.get? name merged =
          match Fields.get? name target, Fields.get? name fields with
          | some old, some new => some (merge old new)
          | some old, none => some old
          | none, new => new) ∧
    ∀ items more, destination = .array items → source = .array more →
      merge destination source = .array (items ++ more) := by
  -- Leaves are counted along the recursion; the fields and the items are read off its two cases.
  refine ⟨leaves_merge first source second, ?_, ?_⟩
  · rintro target fields rfl rfl
    exact ⟨mergeFields target fields, rfl,
      (ordered_mergeFields first fields second.field).ascending,
      get?_mergeFields second.ascending target⟩
  · rintro items more rfl rfl
    rfl

section Sample

/-- An object with a name that the other one has, one of its own, and an array. -/
def stored : Value :=
  .object [("a", .object [("x", .int 1)]), ("b", .array [.int 1]), ("c", .null)]

/-- An object with the same names but one. -/
def added : Value :=
  .object [("a", .object [("x", .int 1), ("y", .nothing)]), ("b", .string "z"), ("d", .null)]

/-- The names of the first object stand in order. -/
theorem ordered_stored : Ordered stored := by
  refine .object (by simp only [Fields.Ordered]; decide) ?_
  simp only [List.forall_mem_cons, List.not_mem_nil, false_implies, implies_true, and_true]
  exact ⟨.object trivial (by simpa using .leaf rfl), .array (by simpa using .leaf rfl), .leaf rfl⟩

/-- The names of the second object stand in order. -/
theorem ordered_added : Ordered added := by
  refine .object (by simp only [Fields.Ordered]; decide) ?_
  simp only [List.forall_mem_cons, List.not_mem_nil, false_implies, implies_true, and_true]
  refine ⟨.object (by simp only [Fields.Ordered]; decide) ?_, .leaf rfl, .leaf rfl⟩
  simpa using ⟨.leaf rfl, .leaf rfl⟩

/-- The two objects are merged with all of their seven leaves, two of which are the same number. -/
theorem merge_conserves_stored :
    Ordered stored ∧ Ordered added ∧
      (merge stored added).leaves.Perm (stored.leaves ++ added.leaves) ∧
        (merge stored added).leaves =
          [.int 1, .int 1, .nothing, .int 1, .string "z", .null, .null] :=
  ⟨ordered_stored, ordered_added, (merge_conserves ordered_stored ordered_added).1, rfl⟩

end Sample

end Collection

end Reshape
