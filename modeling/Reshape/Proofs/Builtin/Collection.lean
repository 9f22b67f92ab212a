import Reshape.Proofs.Eval.Ensures
import Reshape.Proofs.Value.Contract

/-!
Operations on arrays, objects and texts keep to every contract: of results they make results, and
they report no error that is not theirs.
-/

namespace Reshape

variable {contract : Contract} {value : Value}

namespace Contract

/-- An outcome keeps to a contract: it is a result or an error that may be reported. -/
abbrev Keeps (contract : Contract) (outcome : Except Error Value) : Prop :=
  Outcome.Ensures contract.Result contract.Reported outcome

/-- An atom keeps to a contract. -/
theorem keeps_atom (atomic : value.isAtom = true) : contract.Keeps (.ok value) :=
  .value (.inr (contract.atom atomic))

/-- An array of data keeps to a contract. -/
theorem keeps_array {items : List Value} (data : ∀ item ∈ items, contract.Data item) :
    contract.Keeps (.ok (.array items)) :=
  .value (.inr ((contract.array items).2 data))

/-- A fault keeps to a contract. -/
theorem keeps_error {α : Type} {values : α → Prop} {error : Error} (bare : error.isPlaced = false) :
    Outcome.Ensures values contract.Reported (.error error) :=
  .failure (contract.unplaced bare)

/-- The items of a result are data. -/
theorem keeps_items (result : contract.Result value) :
    Outcome.Ensures (fun items => ∀ item ∈ items, contract.Data item) contract.Reported
      (Collection.items value) := by
  cases value with
  | array items => exact .value ((contract.array items).1 (result.data rfl))
  | _ => exact contract.keeps_error rfl

/-- The fields of a result are data. -/
theorem keeps_fields (result : contract.Result value) :
    Outcome.Ensures (fun fields => ∀ field ∈ fields, contract.Data field.2) contract.Reported
      (Collection.fields value) := by
  cases value with
  | object fields => exact .value ((contract.object fields).1 (result.data rfl))
  | _ => exact contract.keeps_error rfl

/-- The text of a value is found or an error that may be reported. -/
theorem keeps_text (value : Value) :
    Outcome.Ensures (fun _ => True) contract.Reported (Collection.text value) := by
  unfold Collection.text
  cases value.toText? with
  | some text => exact .value trivial
  | none => exact contract.keeps_error rfl

/-- What is made of the text of a value keeps to a contract if it does for every text. -/
theorem keeps_ofText {next : Text → Except Error Value} (follows : ∀ text, contract.Keeps (next text))
    (value : Value) : contract.Keeps (Collection.text value >>= next) :=
  (contract.keeps_text value).bind fun text _ => follows text

/-- The natural order of values is found or an error that may be reported. -/
theorem keeps_comesBefore (left right : Value) :
    Outcome.Ensures (fun _ => True) contract.Reported (Collection.comesBefore left right) := by
  unfold Collection.comesBefore
  cases left.compare? right with
  | some order => exact .value trivial
  | none => exact contract.keeps_error rfl

end Contract

namespace Collection

open Contract

/-- Sorting in the natural order keeps to a contract. -/
theorem keeps_sort (result : contract.Result value) : contract.Keeps (sort value) := by
  refine (contract.keeps_items result).bind fun items data => ?_
  have sorted := (Assertion.outcome contract.Reported).sortItems
    (fun a b _ _ => contract.keeps_comesBefore a b) items data
  exact sorted.bind fun found inside => contract.keeps_array inside

/-- Sorting by keys keeps to a contract. -/
theorem keeps_sortKeyed {keyed : List (Value × Value)}
    (data : ∀ pair ∈ keyed, contract.Data pair.2) : contract.Keeps (sortKeyed keyed) := by
  have compared (a b : Value × Value) (_ : contract.Data a.2) (_ : contract.Data b.2) :
      (Assertion.outcome contract.Reported).Holds (fun _ => True) (comesBefore a.1 b.1) :=
    contract.keeps_comesBefore a.1 b.1
  -- A comparison of keys reports nothing and fails as the contract allows, whatever the keys are.
  have sorted := (Assertion.outcome contract.Reported).sortItems compared keyed data
  refine sorted.bind fun found inside => contract.keeps_array fun item member => ?_
  obtain ⟨pair, among, rfl⟩ := List.mem_map.1 member
  exact inside pair among

/-- A sum keeps to a contract. -/
theorem keeps_sum (result : contract.Result value) : contract.Keeps (sum value) := by
  refine (contract.keeps_items result).bind fun items _ => ?_
  have zero : contract.Result (.int 0) := .inr (contract.atom rfl)
  refine (Assertion.outcome contract.Reported).foldlM (motive := fun _ => contract.Result) items
    (.int 0) zero fun total item rest _ => ?_
  -- A sum is a number and so no marker; the first item that is none ends the fold.
  cases given : Value.combine Value.addition total item with
  | some total => exact contract.keeps_atom (Value.isAtom_of_combine given)
  | none => exact contract.keeps_error rfl

/-- The text of a string is found or an error that may be reported. -/
theorem keeps_string (value : Value) :
    Outcome.Ensures (fun _ => True) contract.Reported (string value) := by
  cases value with
  | string text => exact .value trivial
  | _ => exact contract.keeps_error rfl

/-- Joined strings keep to a contract. -/
theorem keeps_join (delimiter : String) (result : contract.Result value) :
    contract.Keeps (join delimiter value) := by
  refine (contract.keeps_items result).bind fun items _ => ?_
  have texts : Outcome.Ensures (List.Forall₂ (fun _ _ => True) items) contract.Reported
      (items.mapM string) :=
    (Assertion.outcome contract.Reported).mapM items fun item _ => keeps_string item
  exact texts.bind fun _ _ => contract.keeps_atom rfl

/-- The names of an object keep to a contract. -/
theorem keeps_keys (result : contract.Result value) : contract.Keeps (keys value) := by
  refine (contract.keeps_fields result).bind fun fields _ => ?_
  refine contract.keeps_array fun item member => ?_
  obtain ⟨_, _, rfl⟩ := List.mem_map.1 member
  exact contract.atom rfl

/-- The values of an object keep to a contract. -/
theorem keeps_values (result : contract.Result value) : contract.Keeps (values value) := by
  refine (contract.keeps_fields result).bind fun fields data => ?_
  refine contract.keeps_array fun item member => ?_
  obtain ⟨field, inside, rfl⟩ := List.mem_map.1 member
  exact data field inside

/-- The item at an index keeps to a contract. -/
theorem keeps_index (index : Int) (result : contract.Result value) :
    contract.Keeps (Collection.index index value) := by
  refine (contract.keeps_items result).bind fun items data => ?_
  dsimp only
  -- Which position the index stands for does not matter.
  generalize (if index < 0 then (items.length : Int) + index else index) = position
  split
  next item found =>
    split at found
    · cases found
    · exact .value (.inr (data item (List.mem_of_getElem? found)))
  next => exact contract.keeps_error rfl

/-- An array with more data at its end keeps to a contract. -/
theorem keeps_append {more : List Value} (data : ∀ item ∈ more, contract.Data item)
    (result : contract.Result value) : contract.Keeps (append more value) := by
  refine (contract.keeps_items result).bind fun items before => ?_
  refine contract.keeps_array fun item member => ?_
  exact (List.mem_append.1 member).elim (before item) (data item)

/-- An object without what stands at some paths keeps to a contract. -/
theorem keeps_without (paths : List (List String)) (result : contract.Result value) :
    contract.Keeps (without paths value) := by
  refine (contract.keeps_fields result).bind fun _ _ => .value ?_
  induction paths generalizing value with
  | nil => exact result
  | cons path rest ih =>
    exact ih (contract.result_deletePath result path)

/-- The items with those of arrays among them keep to a contract. -/
theorem keeps_flatten (result : contract.Result value) : contract.Keeps (flatten value) := by
  refine (contract.keeps_items result).bind fun items data => ?_
  refine contract.keeps_array fun item member => ?_
  obtain ⟨outer, inside, member⟩ := List.mem_flatMap.1 member
  split at member
  next inner => exact (contract.array inner).1 (data _ inside) item member
  next => exact List.mem_singleton.1 member ▸ data _ inside

/-- Distinct items are items. -/
theorem mem_of_mem_distinct {α : Type} {equal : α → α → Bool} {kept items : List α} {item : α}
    (member : item ∈ distinct equal kept items) : item ∈ kept ∨ item ∈ items := by
  -- Each item either joins those that are kept or is dropped.
  induction items generalizing kept with
  | nil => exact .inl (by simpa [distinct] using member)
  | cons first rest ih =>
    unfold distinct at member
    split at member
    · exact (ih member).imp_right (List.mem_cons_of_mem first)
    · rcases ih member with before | later
      · rcases List.mem_cons.1 before with rfl | before
        · exact .inr (by simp)
        · exact .inl before
      · exact .inr (by simp [later])

/-- The items without repetitions keep to a contract. -/
theorem keeps_unique (result : contract.Result value) : contract.Keeps (unique value) := by
  refine (contract.keeps_items result).bind fun items data => ?_
  refine contract.keeps_array fun item member => ?_
  exact data item ((mem_of_mem_distinct member).resolve_left (by simp))

/-- Whether something is contained keeps to a contract. -/
theorem keeps_contains (wanted value : Value) : contract.Keeps (contains wanted value) := by
  cases value with
  | array items => exact contract.keeps_atom rfl
  | _ => exact contract.keeps_ofText (fun _ => contract.keeps_atom rfl) _

/-- A length keeps to a contract. -/
theorem keeps_length (value : Value) : contract.Keeps (length value) := by
  cases value with
  | array items => exact contract.keeps_atom rfl
  | object fields => exact contract.keeps_atom rfl
  | _ => exact contract.keeps_ofText (fun _ => contract.keeps_atom rfl) _

/-- The reverse of a result keeps to a contract. -/
theorem keeps_reverse (result : contract.Result value) : contract.Keeps (reverse value) := by
  cases value with
  | array items =>
    have data := (contract.array items).1 (result.data rfl)
    exact contract.keeps_array fun item member => data item (List.mem_reverse.1 member)
  | _ => exact contract.keeps_ofText (fun _ => contract.keeps_atom (Value.isAtom_toValue _)) _

/-- A stretch is one, or an error that may be reported. -/
theorem keeps_ordered {α : Type} (stretch : Except Stretch α) :
    Outcome.Ensures (fun _ => True) contract.Reported (ordered stretch) := by
  cases stretch with
  | ok result => exact .value trivial
  | error crossed => exact contract.keeps_error rfl

/-- A stretch of a result keeps to a contract. -/
theorem keeps_slice (low : Int) (high : Option Int) (result : contract.Result value) :
    contract.Keeps (slice low high value) := by
  cases value with
  -- What is left of the array after both cuts are items of it.
  | array items =>
    have data := (contract.array items).1 (result.data rfl)
    refine (keeps_ordered (Stretch.between items.length low high)).bind fun stretch _ => ?_
    refine contract.keeps_array fun item member => data item ?_
    exact List.mem_of_mem_drop (List.mem_of_mem_take member)
  | _ =>
    refine contract.keeps_ofText (fun text => ?_) _
    refine (keeps_ordered (text.slice low high)).bind fun part _ => ?_
    exact contract.keeps_atom (Value.isAtom_toValue part)

/-- A result that is checked for being empty keeps to a contract. -/
theorem keeps_notEmpty (result : contract.Result value) : contract.Keeps (notEmpty value) := by
  unfold notEmpty
  dsimp only
  split
  · exact contract.keeps_error rfl
  · exact .value result
  · exact contract.keeps_error rfl

end Collection

end Reshape
