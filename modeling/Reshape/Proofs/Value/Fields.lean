import Reshape.Value.Basic
import Reshape.Value.Fields

/-!
Laws of fields: what stands in them and what is found under a name after a change of one name, in
whatever order the names are, and that insertions keep the names in order. Objects are built by
insertions, so that all values have their names in order.
-/

namespace Reshape.Fields

variable {α : Type} {name other : String} {value : α}

/-- A value that is found under a name stands in the fields under that name. -/
theorem mem_of_get? {fields : Fields α} (found : fields.get? name = some value) :
    (name, value) ∈ fields := by
  -- The value is found at the first field of the name.
  induction fields with
  | nil => cases found
  | cons field rest ih =>
    obtain ⟨other, old⟩ := field
    unfold get? at found
    split at found
    next same =>
      obtain rfl := Option.some.inj found
      exact same ▸ .head _
    next => exact .tail _ (ih found)

/-- What stands in fields after an insertion is what was inserted, or stood there before. -/
theorem mem_insert {field : String × α} {fields : Fields α}
    (member : field ∈ fields.insert name value) : field = (name, value) ∨ field ∈ fields := by
  -- A value is put in place of one of the same name, or before the first greater name, or at the
  -- end.
  induction fields with
  | nil => exact .inl (List.mem_singleton.1 member)
  | cons first rest ih =>
    obtain ⟨other, old⟩ := first
    unfold insert at member
    split at member
    next =>
      rcases List.mem_cons.1 member with same | later
      · exact .inl same
      · exact .inr (.tail _ later)
    next =>
      split at member
      · exact List.mem_cons.1 member
      · rcases List.mem_cons.1 member with same | later
        · exact .inr (same ▸ .head _)
        · exact (ih later).imp_right fun before => .tail _ before

/-- What stands in the fields that pairs make is one of the pairs. -/
theorem mem_ofList {field : String × α} {pairs : List (String × α)}
    (member : field ∈ ofList pairs) : field ∈ pairs := by
  have inserted (pairs : List (String × α)) (done : Fields α)
      (member : field ∈ pairs.foldl (fun done given => done.insert given.1 given.2) done) :
      field ∈ pairs ∨ field ∈ done := by
    -- The fields that are done go along, so that what was inserted before is accounted for.
    induction pairs generalizing done with
    | nil => exact .inr member
    | cons pair rest ih =>
      rcases ih _ member with later | before
      · exact .inl (.tail _ later)
      · rcases mem_insert before with same | before
        · exact .inl (same ▸ .head _)
        · exact .inr before
  exact (inserted pairs [] member).resolve_right (by simp)

/-- A value that is put in is found under its name. -/
@[simp] theorem get?_insert_self (name : String) (value : α) (fields : Fields α) :
    (fields.insert name value).get? name = some value := by
  induction fields with
  | nil => simp [insert, get?]
  | cons field rest ih =>
    obtain ⟨first, old⟩ := field
    -- The field is written where it stands already, before a greater name, or further behind.
    by_cases same : first = name
    · simp [insert, get?, same]
    · by_cases before : name < first <;> simp [insert, get?, same, before, ih]

/-- What is found under other names stays when a value is put in. -/
theorem get?_insert_of_ne (different : other ≠ name) (value : α) (fields : Fields α) :
    (fields.insert name value).get? other = fields.get? other := by
  have apart : name ≠ other := Ne.symm different
  -- The value is put in under the name itself, or before a greater name.
  induction fields with
  | nil => simp [insert, get?, apart]
  | cons field rest ih =>
    obtain ⟨first, old⟩ := field
    by_cases same : first = name
    · simp [insert, get?, same, apart]
    · by_cases before : name < first <;> simp [insert, get?, same, before, apart, ih]

/-- Nothing is found under a name that is left out. -/
@[simp] theorem get?_erase_self (name : String) (fields : Fields α) :
    (fields.erase name).get? name = none := by
  -- A field with the name is dropped, and any other one is passed over.
  induction fields with
  | nil => rfl
  | cons field rest ih =>
    obtain ⟨first, old⟩ := field
    unfold erase at ih ⊢
    by_cases same : first = name
    · simp [same, ih]
    · simp [get?, same, ih]

/-- What is found under other names stays when a name is left out. -/
theorem get?_erase_of_ne (different : other ≠ name) (fields : Fields α) :
    (fields.erase name).get? other = fields.get? other := by
  -- A field that is dropped has another name than the wanted one.
  induction fields with
  | nil => rfl
  | cons field rest ih =>
    obtain ⟨first, old⟩ := field
    unfold erase at ih ⊢
    by_cases same : first = name
    · have apart : name ≠ other := Ne.symm different
      simp [get?, same, apart, ih]
    · simp [get?, same, ih]

/-- What stands in fields without a name stood in them before. -/
theorem mem_of_mem_erase {field : String × α} {fields : Fields α}
    (member : field ∈ fields.erase name) : field ∈ fields :=
  (List.mem_filter.1 member).1

/-- Names stand in order if the first one is below all others, and those stand in order. -/
theorem ordered_cons {rest : Fields α} :
    Ordered ((name, value) :: rest) ↔ (∀ field ∈ rest, name < field.1) ∧ rest.Ordered := by
  -- The first name is below the second, and so below all that this one is below.
  induction rest generalizing name value with
  | nil => simp [Ordered]
  | cons second rest ih =>
    obtain ⟨next, old⟩ := second
    rw [List.forall_mem_cons]
    constructor
    · rintro ⟨before, ordered⟩
      have above := (ih.1 ordered).1
      exact ⟨⟨before, fun field member => String.lt_trans before (above field member)⟩, ordered⟩
    · rintro ⟨⟨before, -⟩, ordered⟩
      exact ⟨before, ordered⟩

/-- Whether names stand in order does not depend on what stands under them. -/
theorem Ordered.of_names {β : Type} {fields : Fields α} (ordered : fields.Ordered)
    {others : Fields β} (names : others.map Prod.fst = fields.map Prod.fst) : others.Ordered := by
  induction fields generalizing others with
  | nil =>
    obtain rfl := List.map_eq_nil_iff.1 names
    trivial
  | cons field rest ih =>
    obtain ⟨above, later⟩ := ordered_cons.1 ordered
    cases others with
    | nil => cases names
    | cons other others =>
      obtain ⟨first, following⟩ := List.cons.inj names
      refine ordered_cons.2 ⟨fun next member => ?_, ih later following⟩
      -- The name stands among the old ones too, all of which are above the first.
      have among : next.1 ∈ rest.map Prod.fst := following ▸ List.mem_map_of_mem member
      obtain ⟨old, place, same⟩ := List.mem_map.1 among
      rw [first, ← same]
      exact above old place

/-- Names stay in order when one is left out. -/
theorem ordered_erase {fields : Fields α} (ordered : fields.Ordered) :
    (fields.erase name).Ordered := by
  -- The field that is left out has the least name, or a later one.
  induction fields with
  | nil => trivial
  | cons first rest ih =>
    obtain ⟨other, old⟩ := first
    obtain ⟨above, ordered⟩ := ordered_cons.1 ordered
    unfold erase at ih ⊢
    by_cases same : other = name
    · rw [List.filter_cons_of_neg (by simp [same])]
      exact ih ordered
    · rw [List.filter_cons_of_pos (by simp [same])]
      exact ordered_cons.2 ⟨fun field member => above field (List.mem_filter.1 member).1,
        ih ordered⟩

/-- Names stay in order when a value is put in. -/
theorem ordered_insert {fields : Fields α} (ordered : fields.Ordered) :
    (fields.insert name value).Ordered := by
  -- The value takes the place of the one under its name, or stands before the first greater name.
  induction fields with
  | nil => trivial
  | cons first rest ih =>
    obtain ⟨other, old⟩ := first
    obtain ⟨above, rest'⟩ := ordered_cons.1 ordered
    unfold insert
    split
    next same => exact ordered_cons.2 ⟨same ▸ above, rest'⟩
    next different =>
      split
      next before => exact ⟨before, ordered⟩
      next after =>
        have before : other < name := Std.lt_of_le_of_ne (String.not_lt.1 after) different
        refine ordered_cons.2 ⟨fun field member => ?_, ih rest'⟩
        rcases mem_insert member with rfl | given
        · exact before
        · exact above field given

/-- The fields that pairs make are in order. -/
theorem ordered_ofList (pairs : List (String × α)) : (ofList pairs).Ordered :=
  List.foldlRecOn (motive := Ordered) pairs _ trivial
    fun _ ordered _ _ => ordered_insert ordered

/-- Nothing is found under a name that no field has. -/
theorem get?_eq_none {fields : Fields α} :
    fields.get? name = none ↔ ∀ field ∈ fields, field.1 ≠ name := by
  induction fields with
  | nil => simp [get?]
  | cons field rest ih =>
    obtain ⟨first, old⟩ := field
    -- The name is that of the first field, or is looked for among the others.
    by_cases same : first = name
    · simp [get?, same]
    · simpa [get?, same] using ih

/-- A name that is given stands behind the names below it and before those above it. -/
theorem split_of_get? {fields : Fields α} (ordered : fields.Ordered)
    (found : fields.get? name = some value) :
    ∃ front back, fields = front ++ (name, value) :: back ∧ (∀ field ∈ front, field.1 < name) ∧
      ∀ field ∈ back, name < field.1 := by
  -- The first field has the name, or the name stands behind it and so is above its own.
  induction fields with
  | nil => cases found
  | cons field rest ih =>
    obtain ⟨first, old⟩ := field
    obtain ⟨above, ordered⟩ := ordered_cons.1 ordered
    by_cases same : first = name
    · subst same
      obtain rfl : old = value := by simpa [get?] using found
      exact ⟨[], rest, rfl, by simp, above⟩
    · rw [get?, if_neg same] at found
      obtain ⟨front, back, rfl, below, above'⟩ := ih ordered found
      have first_lt : first < name := above (name, value) (by simp)
      exact ⟨(first, old) :: front, back, rfl, List.forall_mem_cons.2 ⟨first_lt, below⟩, above'⟩

/-- A name that is not given has a place between the fields. -/
theorem split_of_get?_eq_none {fields : Fields α} (absent : fields.get? name = none) :
    ∃ front back, fields = front ++ back ∧
      ∀ new, fields.insert name new = front ++ (name, new) :: back := by
  -- The place is before the first field with a greater name, or at the end.
  induction fields with
  | nil => exact ⟨[], [], rfl, fun new => rfl⟩
  | cons field rest ih =>
    obtain ⟨first, old⟩ := field
    by_cases same : first = name
    · simp [get?, same] at absent
    · rw [get?, if_neg same] at absent
      by_cases before : name < first
      · exact ⟨[], (first, old) :: rest, rfl, fun new => by simp [insert, same, before]⟩
      · obtain ⟨front, back, rfl, put⟩ := ih absent
        exact ⟨(first, old) :: front, back, rfl, fun new => by simp [insert, same, before, put]⟩

section Place

variable {front back : Fields α} (below : ∀ field ∈ front, field.1 < name)

include below

/-- A name is found behind the names below it. -/
theorem get?_append (value : α) (back : Fields α) :
    get? name (front ++ (name, value) :: back) = some value := by
  -- Each name in front is below the wanted one, and so another.
  induction front with
  | nil => simp [get?]
  | cons field rest ih =>
    obtain ⟨first, old⟩ := field
    obtain ⟨before, below⟩ := List.forall_mem_cons.1 below
    have different : first ≠ name := by
      rintro rfl
      exact String.lt_irrefl _ before
    rw [List.cons_append, get?, if_neg different]
    exact ih below

/-- A value is put in under a name in place of the one there. -/
theorem insert_append (old new : α) (back : Fields α) :
    insert name new (front ++ (name, old) :: back) = front ++ (name, new) :: back := by
  -- Each name in front is below the wanted one, so the value is not put in before it.
  induction front with
  | nil => simp [insert]
  | cons field rest ih =>
    obtain ⟨first, given⟩ := field
    obtain ⟨before, below⟩ := List.forall_mem_cons.1 below
    have different : first ≠ name := by
      rintro rfl
      exact String.lt_irrefl _ before
    rw [List.cons_append, insert, if_neg different, if_neg (String.lt_asymm before), ih below,
      List.cons_append]

/-- Without a name those below it and those above it are left. -/
theorem erase_append (above : ∀ field ∈ back, name < field.1) (value : α) :
    erase name (front ++ (name, value) :: back) = front ++ back := by
  -- Nothing is dropped in front or behind, where all names are other ones.
  have low : front.filter (fun field => field.1 != name) = front :=
    List.filter_eq_self.2 fun field member => by
      simpa using fun same : field.1 = name => String.lt_irrefl _ (same ▸ below field member)
  have high : back.filter (fun field => field.1 != name) = back :=
    List.filter_eq_self.2 fun field member => by
      simpa using fun same : field.1 = name => String.lt_irrefl _ (same ▸ above field member)
  rw [erase, List.filter_append, List.filter_cons, low, high]
  simp

end Place

/-- A value under a name above all others is put in at the end. -/
theorem insert_of_lt {fields : Fields α} (above : ∀ field ∈ fields, field.1 < name) :
    fields.insert name value = fields ++ [(name, value)] := by
  -- The walk passes all fields, which have lower names.
  induction fields with
  | nil => rfl
  | cons first rest ih =>
    obtain ⟨other, old⟩ := first
    rw [List.forall_mem_cons] at above
    obtain ⟨before, above⟩ := above
    have different : other ≠ name := by
      rintro rfl
      exact String.lt_irrefl _ before
    simp [insert, different, String.lt_asymm before, ih above]

/-- Pairs whose names are in order are the fields that they make. -/
theorem ofList_of_ordered {fields : Fields α} (ordered : fields.Ordered) :
    ofList fields = fields := by
  have inserted (rest done : Fields α) (ordered : rest.Ordered)
      (above : ∀ field ∈ rest, ∀ first ∈ done, first.1 < field.1) :
      rest.foldl (fun done given => done.insert given.1 given.2) done = done ++ rest := by
    -- The fields that are done stay below those that are left.
    induction rest generalizing done with
    | nil => simp
    | cons field rest ih =>
      obtain ⟨name, value⟩ := field
      obtain ⟨below, ordered⟩ := ordered_cons.1 ordered
      rw [List.forall_mem_cons] at above
      rw [List.foldl_cons, insert_of_lt above.1, ih _ ordered, List.append_assoc,
        List.singleton_append]
      intro later member first given
      rcases List.mem_append.1 given with given | given
      · exact above.2 later member first given
      · obtain rfl := List.mem_singleton.1 given
        exact below later member
  exact (inserted fields [] ordered (by simp)).trans (List.nil_append fields)

end Reshape.Fields

namespace Reshape.Value

/-- Whether a value is not made of other values. -/
def isLeaf : Value → Bool
  | .array _ | .object _ => false
  | _ => true

/-- The names of all objects in a value stand in ascending order. -/
inductive Ordered : Value → Prop where
  | leaf {value : Value} (single : value.isLeaf = true) : Ordered value
  | array {items : List Value} (each : ∀ item ∈ items, Ordered item) : Ordered (.array items)
  | object {fields : Fields Value} (ascending : fields.Ordered)
      (each : ∀ field ∈ fields, Ordered field.2) : Ordered (.object fields)

namespace Ordered

variable {items : List Value} {fields : Fields Value}

/-- The items of an array have their names in order. -/
theorem item (ordered : Ordered (.array items)) : ∀ item ∈ items, Ordered item := by
  cases ordered with
  | leaf single => cases single
  | array each => exact each

/-- The names of an object stand in order. -/
theorem ascending (ordered : Ordered (.object fields)) : fields.Ordered := by
  cases ordered with
  | leaf single => cases single
  | object ascending _ => exact ascending

/-- The values of an object have their names in order. -/
theorem field (ordered : Ordered (.object fields)) : ∀ field ∈ fields, Ordered field.2 := by
  cases ordered with
  | leaf single => cases single
  | object _ each => exact each

/-- The value under a name has its names in order. -/
theorem get? (ordered : Ordered (.object fields)) {name : String} {value : Value}
    (found : fields.get? name = some value) : Ordered value :=
  ordered.field _ (Fields.mem_of_get? found)

/-- A value that is put in may bring its names in order. -/
theorem insert (ordered : Ordered (.object fields)) {name : String} {value : Value}
    (inner : Ordered value) : Ordered (.object (fields.insert name value)) := by
  refine .object (Fields.ordered_insert ordered.ascending) fun field member => ?_
  rcases Fields.mem_insert member with rfl | member
  · exact inner
  · exact ordered.field field member

end Ordered

end Reshape.Value
