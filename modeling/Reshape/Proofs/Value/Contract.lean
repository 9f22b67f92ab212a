import Reshape.Builtin.Collection
import Reshape.Proofs.Value.Atom
import Reshape.Proofs.Value.Path

/-!
Contracts: which values are data and which errors may be reported, so that whatever is built of data
is data. Operations on values keep to every contract.
-/

namespace Reshape

/-- What evaluation is to keep to. -/
structure Contract where
  /-- The values that may be parts of others. -/
  Data : Value → Prop
  /-- The errors that evaluation may fail with. -/
  Reported : Error → Prop
  atom {value : Value} (atomic : value.isAtom = true) : Data value
  array (items : List Value) : Data (.array items) ↔ ∀ item ∈ items, Data item
  object (fields : Fields Value) : Data (.object fields) ↔ ∀ field ∈ fields, Data field.2
  unplaced {error : Error} (bare : error.isPlaced = false) : Reported error
  mismatch (operands : Mismatch) : Reported (.mismatch operands)
  labelled (label : String) {error : Error} (bare : error.isPlaced = false) :
    Reported (.labelled label error)

namespace Contract

variable {contract : Contract} {value new target : Value} {items : List Value}
  {fields : Fields Value} {path : List String} {name : String}

/-- What expressions give: markers and data. -/
def Result (contract : Contract) (value : Value) : Prop :=
  value.isMarker = true ∨ contract.Data value

/-- A label does not change whether an error may be reported. -/
theorem label {error : Error} (reported : contract.Reported error) (label : String) :
    contract.Reported (error.label label) := by
  unfold Error.label
  cases placed : error.isPlaced with
  | true => exact reported
  | false => exact contract.labelled label placed

/-- The error of a value of another kind may be reported. -/
theorem expected (what : String) (value : Value) : contract.Reported (.expected what value) :=
  contract.unplaced rfl

/-- A result that is no marker is data. -/
theorem Result.data (result : contract.Result value) (unmarked : value.isMarker = false) :
    contract.Data value := by
  rcases result with marker | data
  · rw [unmarked] at marker
    cases marker
  · exact data

/-- What a slot of data holds is data. -/
theorem child (data : contract.Data value) {segment : String} {inner : Value}
    (found : value.child? segment = some inner) : contract.Data inner := by
  -- A child is a field of an object or an item of an array.
  cases value with
  | object fields => exact (contract.object fields).1 data _ (Fields.mem_of_get? found)
  | array items =>
    obtain ⟨index, _, found⟩ := Option.bind_eq_some_iff.1 found
    exact (contract.array items).1 data _ (List.mem_of_getElem? found)
  | _ => cases found

/-- What stands at a path in data is data. -/
theorem get? (data : contract.Data value) {inner : Value} (found : value.get? path = some inner) :
    contract.Data inner := by
  induction path generalizing value with
  | nil =>
    obtain rfl := Option.some.inj found
    exact data
  | cons segment rest ih =>
    -- The path is followed child by child.
    obtain ⟨middle, first, found⟩ := Option.bind_eq_some_iff.1 found
    exact ih (contract.child data first) found

/-- What a path in a result gives is a result. -/
theorem getOrNull (result : contract.Result value) (path : List String) :
    contract.Result (value.getOrNull path) := by
  unfold Value.getOrNull
  cases found : value.get? path with
  | none => exact .inr (contract.atom rfl)
  | some inner =>
    cases path with
    | nil =>
      obtain rfl := Option.some.inj found
      exact result
    | cons segment rest =>
      -- There is nothing in a marker.
      rcases result with marker | data
      · cases value <;> simp [Value.isMarker, Value.get?, Value.child?] at marker found
      · exact .inr (contract.get? data found)

/-- Fields with data put in hold data. -/
theorem insert (data : ∀ field ∈ fields, contract.Data field.2) (new : contract.Data value) :
    ∀ field ∈ fields.insert name value, contract.Data field.2 := by
  intro field member
  rcases Fields.mem_insert member with rfl | before
  · exact new
  · exact data field before

/-- Data with data written into it is data. -/
theorem set (written : contract.Data new) (data : contract.Data target) :
    contract.Data (Value.set path new target) := by
  -- The path is followed inwards, and every level is an object or an array of data.
  induction path generalizing target with
  | nil => exact written
  | cons segment rest ih =>
    have fresh (fields : Fields Value) (data : ∀ field ∈ fields, contract.Data field.2) :
        contract.Data (.object (fields.insert segment
          (Value.set rest new ((fields.get? segment).getD .null)))) := by
      refine (contract.object _).2 (contract.insert data (ih ?_))
      cases found : fields.get? segment with
      | none => exact contract.atom rfl
      | some old => exact data _ (Fields.mem_of_get? found)
    have empty : ∀ field ∈ ([] : Fields Value), contract.Data field.2 := by simp
    cases target with
    | object fields => exact fresh fields ((contract.object fields).1 data)
    | array items =>
      simp only [Value.set]
      split
      next index item found =>
        obtain ⟨_, _, found⟩ := Option.bind_eq_some_iff.1 found
        obtain ⟨_, inside, same⟩ := Option.map_eq_some_iff.1 found
        obtain ⟨rfl, rfl⟩ := Prod.mk.inj same
        have data := (contract.array items).1 data
        refine (contract.array _).2 fun other member => ?_
        rcases List.mem_or_eq_of_mem_set member with before | rfl
        · exact data other before
        · exact ih (data _ (List.mem_of_getElem? inside))
      next => exact fresh [] empty
    | _ => exact fresh [] empty

/-- What is left of data after a deletion is data. -/
theorem delete? (data : contract.Data value) {result : Value}
    (deleted : value.delete? path = some result) : contract.Data result := by
  -- The path is followed inwards, and what is left at each level was there before.
  induction path generalizing value result with
  | nil => cases deleted
  | cons segment rest ih =>
    cases value with
    | object fields =>
      have data := (contract.object fields).1 data
      cases rest with
      | nil =>
        obtain ⟨_, _, rfl⟩ := Option.map_eq_some_iff.1 deleted
        exact (contract.object _).2 fun field member => data field (Fields.mem_of_mem_erase member)
      | cons next rest =>
        obtain ⟨inner, found, deleted⟩ := Option.bind_eq_some_iff.1 deleted
        obtain ⟨inner', left, deleted⟩ := Option.bind_eq_some_iff.1 deleted
        obtain rfl := Option.some.inj deleted
        have inside := ih (data _ (Fields.mem_of_get? found)) left
        exact (contract.object _).2 (contract.insert data inside)
    | array items =>
      have data := (contract.array items).1 data
      cases rest with
      | nil =>
        obtain ⟨index, _, deleted⟩ := Option.bind_eq_some_iff.1 deleted
        split at deleted
        · obtain rfl := Option.some.inj deleted
          exact (contract.array _).2 fun item member => data item (List.mem_of_mem_eraseIdx member)
        · cases deleted
      | cons next rest =>
        obtain ⟨index, _, deleted⟩ := Option.bind_eq_some_iff.1 deleted
        obtain ⟨item, found, deleted⟩ := Option.bind_eq_some_iff.1 deleted
        obtain ⟨item', left, deleted⟩ := Option.bind_eq_some_iff.1 deleted
        obtain rfl := Option.some.inj deleted
        refine (contract.array _).2 fun other member => ?_
        rcases List.mem_or_eq_of_mem_set member with before | rfl
        · exact data other before
        · exact ih (data _ (List.mem_of_getElem? found)) left
    | _ => cases rest <;> cases deleted

/-- What a deletion makes of data is data. -/
theorem deletePath (data : contract.Data value) (path : List String) :
    contract.Data (value.deletePath path) := by
  unfold Value.deletePath
  cases deleted : value.delete? path with
  | none => exact data
  | some result => exact contract.delete? data deleted

/-- What a deletion makes of a result is a result. -/
theorem result_deletePath (result : contract.Result value) (path : List String) :
    contract.Result (value.deletePath path) := by
  rcases result with marker | data
  · exact .inl (by rwa [Value.deletePath_of_isMarker marker])
  · exact .inr (contract.deletePath data path)

mutual

/-- Data merged into data is data. -/
theorem merge {destination : Value} (first : contract.Data destination) (source : Value)
    (second : contract.Data source) : contract.Data (Collection.merge destination source) := by
  -- Whatever is no pair of objects or arrays ends up side by side in an array.
  have pair : contract.Data (.array [destination, source]) :=
    (contract.array _).2 (by simpa using ⟨first, second⟩)
  have joined (more : List Value) (others : ∀ item ∈ more, contract.Data item) (items : List Value)
      (data : contract.Data (.array items)) : contract.Data (.array (items ++ more)) := by
    refine (contract.array _).2 fun item member => ?_
    rcases List.mem_append.1 member with before | after
    · exact (contract.array items).1 data item before
    · exact others item after
  have last := joined [source] (by simpa using second)
  match source with
  | .object more =>
    cases destination with
    | object kept =>
      have before := (contract.object kept).1 first
      exact (contract.object _).2 (mergeFields before more ((contract.object more).1 second))
    | array items => exact last items first
    | _ => exact pair
  | .array more =>
    cases destination with
    | array items => exact joined more ((contract.array more).1 second) items first
    | _ => exact pair
  | .null | .bool _ | .int _ | .uint _ | .float _ | .string _ | .bytes _ | .delete | .nothing =>
    cases destination with
    | array items => exact last items first
    | _ => exact pair

/-- Fields of data merged into fields of data hold data. -/
theorem mergeFields {kept : Fields Value} (first : ∀ field ∈ kept, contract.Data field.2)
    (source : List (String × Value)) (second : ∀ field ∈ source, contract.Data field.2) :
    ∀ field ∈ Collection.mergeFields kept source, contract.Data field.2 := by
  -- A field is merged into the one under its name, or put in as it is.
  match source with
  | [] => exact first
  | (name, value) :: rest =>
    rw [List.forall_mem_cons] at second
    refine mergeFields (contract.insert first ?_) rest second.2
    split
    next existing found => exact merge (first _ (Fields.mem_of_get? found)) value second.1
    next => exact second.1

end

mutual

/-- What a JSON tree denotes is data. -/
theorem ofJson (json : Json) : contract.Data (Value.ofJson json) := by
  -- The tree is walked by recursion; all scalars are atoms.
  match json with
  | .null => exact contract.atom rfl
  | .bool value => exact contract.atom rfl
  | .integer value =>
    simp only [Value.ofJson]
    split <;> exact contract.atom rfl
  | .float value => exact contract.atom rfl
  | .string text => exact contract.atom rfl
  | .array items => exact (contract.array _).2 (ofItems items)
  | .object members =>
    refine (contract.object _).2 fun field member => ?_
    exact ofMembers members field (Fields.mem_ofList member)

/-- What the items of a JSON array denote is data. -/
theorem ofItems (items : List Json) : ∀ item ∈ Value.ofItems items, contract.Data item := by
  match items with
  | [] => simp [Value.ofItems]
  | item :: rest => exact List.forall_mem_cons.2 ⟨ofJson item, ofItems rest⟩

/-- What the members of a JSON object denote is data. -/
theorem ofMembers (members : List (String × Json)) :
    ∀ field ∈ Value.ofMembers members, contract.Data field.2 := by
  match members with
  | [] => simp [Value.ofMembers]
  | (name, value) :: rest => exact List.forall_mem_cons.2 ⟨ofJson value, ofMembers rest⟩

end

end Contract

end Reshape
