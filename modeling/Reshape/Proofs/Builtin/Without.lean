import Reshape.Builtin.Collection
import Reshape.Proofs.Value.Fields
import Reshape.Proofs.Value.Slot

/-!
Values without what stands at some paths. Paths are deleted one after the other, and a deletion in
an array moves the items behind it, so that what is left depends on the order of the paths if one of
them takes an item of an array and another one leads through that item or one behind it. Where no
deletion moves what a later path leads through, the method takes what the paths lead to.
-/

namespace Reshape.Value

/-- What paths lead to behind a segment of some sort. -/
def behind (names : String → Bool) (paths : List (List String)) : List (List String) :=
  paths.filterMap fun
    | [] => none
    | segment :: rest => if names segment then some rest else none

/-- Whether a segment is a name. -/
def isNamed (name segment : String) : Bool :=
  segment == name

/-- Whether a segment names a position. -/
def atPosition (index : Nat) (segment : String) : Bool :=
  Numeral.position? segment == some index

mutual

/-- A value without what stands at the paths that lead into it. -/
def prune (paths : List (List String)) : Value → Value
  | .array items => .array (pruneItems paths 0 items)
  | .object fields => .object (pruneFields paths fields)
  | value => value

/-- The items that are left, from a position on. -/
def pruneItems (paths : List (List String)) (index : Nat) : List Value → List Value
  | [] => []
  | item :: rest =>
    let inner := behind (atPosition index) paths
    let later := pruneItems paths (index + 1) rest
    if [] ∈ inner then later else prune inner item :: later

/-- The fields that are left. -/
def pruneFields (paths : List (List String)) : List (String × Value) → List (String × Value)
  | [] => []
  | (name, value) :: rest =>
    let inner := behind (isNamed name) paths
    let later := pruneFields paths rest
    if [] ∈ inner then later else (name, prune inner value) :: later

end

/-- The deletion of a path moves what another one leads through: it takes an item out of an array,
and the other one leads through that item or one behind it. -/
inductive Shifts : Value → List String → List String → Prop where
  | here {items : List Value} {segment other : String} {rest : List String} {index index' : Nat}
      (written : Numeral.position? segment = some index)
      (written' : Numeral.position? other = some index') (reaches : index ≤ index')
      (within : index' < items.length) : Shifts (.array items) [segment] (other :: rest)
  | inside {value inner : Value} {segment other : String} {path path' : List String}
      (slot : SameSlot value segment other) (found : value.child? segment = some inner)
      (later : Shifts inner path path') : Shifts value (segment :: path) (other :: path')

section Behind

variable {names : String → Bool} {paths paths' : List (List String)} {segment : String}
  {path rest : List String}

/-- What paths lead to behind segments of some sort. -/
theorem mem_behind : path ∈ behind names paths ↔
    ∃ segment, names segment = true ∧ segment :: path ∈ paths := by
  simp only [behind, List.mem_filterMap]
  -- A path is behind a segment just if it is what the segment is dropped from.
  constructor
  · rintro ⟨given, member, made⟩
    cases given with
    | nil => cases made
    | cons segment rest =>
      dsimp only at made
      split at made
      next named =>
        obtain rfl := Option.some.inj made
        exact ⟨segment, named, member⟩
      next => cases made
  · rintro ⟨segment, named, member⟩
    exact ⟨segment :: path, member, by simp [named]⟩

/-- A path leads to its rest behind its segment. -/
theorem behind_cons_of_names (named : names segment = true) (rest : List String)
    (paths : List (List String)) :
    behind names ((segment :: rest) :: paths) = rest :: behind names paths := by
  simp [behind, named]

/-- A path leads to nothing behind another segment than its own. -/
theorem behind_cons_of_not_names (other : names segment = false) (rest : List String)
    (paths : List (List String)) :
    behind names ((segment :: rest) :: paths) = behind names paths := by
  simp [behind, other]

end Behind

mutual

/-- What is left does not depend on the order of the paths, nor on how often they are given. -/
theorem prune_congr {paths paths' : List (List String)}
    (same : ∀ segment rest, segment :: rest ∈ paths ↔ segment :: rest ∈ paths') (value : Value) :
    prune paths value = prune paths' value := by
  -- Only the members of the paths are asked for, at every depth.
  match value with
  | .array items => rw [prune, prune, pruneItems_congr same 0 items]
  | .object fields => rw [prune, prune, pruneFields_congr same fields]
  | .null | .bool _ | .int _ | .uint _ | .float _ | .string _ | .bytes _ | .delete | .nothing => rfl

/-- What items are left does not depend on the order of the paths. -/
theorem pruneItems_congr {paths paths' : List (List String)}
    (same : ∀ segment rest, segment :: rest ∈ paths ↔ segment :: rest ∈ paths') (index : Nat)
    (items : List Value) : pruneItems paths index items = pruneItems paths' index items := by
  -- What stands behind a position is the same set of paths, and whether one ends there as well.
  match items with
  | [] => rfl
  | item :: rest =>
    have inner (path : List String) : path ∈ behind (atPosition index) paths ↔
        path ∈ behind (atPosition index) paths' := by
      simp only [mem_behind, same]
    rw [pruneItems, pruneItems, pruneItems_congr same (index + 1) rest,
      prune_congr (fun segment rest => inner (segment :: rest)) item]
    simp only [inner]

/-- What fields are left does not depend on the order of the paths. -/
theorem pruneFields_congr {paths paths' : List (List String)}
    (same : ∀ segment rest, segment :: rest ∈ paths ↔ segment :: rest ∈ paths')
    (fields : List (String × Value)) : pruneFields paths fields = pruneFields paths' fields := by
  -- What stands behind a name is the same set of paths, and whether one ends there as well.
  match fields with
  | [] => rfl
  | (name, value) :: rest =>
    have inner (path : List String) : path ∈ behind (isNamed name) paths ↔
        path ∈ behind (isNamed name) paths' := by
      simp only [mem_behind, same]
    rw [pruneFields, pruneFields, pruneFields_congr same rest,
      prune_congr (fun segment rest => inner (segment :: rest)) value]
    simp only [inner]

end

section Elsewhere

variable {segment : String} {rest : List String}

/-- Paths leave items in the order in which they stand. -/
theorem pruneItems_append (paths : List (List String)) (index : Nat) (front back : List Value) :
    pruneItems paths index (front ++ back) =
      pruneItems paths index front ++ pruneItems paths (index + front.length) back := by
  -- The items behind start at a position further on.
  induction front generalizing index with
  | nil => simp [pruneItems]
  | cons item front ih =>
    have next : index + (item :: front).length = index + 1 + front.length := by
      simp only [List.length_cons]
      omega
    simp only [List.cons_append, pruneItems, ih, next]
    split <;> rfl

/-- Paths leave fields in the order in which they stand. -/
theorem pruneFields_append (paths : List (List String)) (front back : List (String × Value)) :
    pruneFields paths (front ++ back) = pruneFields paths front ++ pruneFields paths back := by
  induction front with
  | nil => rfl
  | cons field front ih =>
    simp only [List.cons_append, pruneFields, ih]
    split <;> rfl

/-- A path whose segment names none of the positions takes nothing from the items. -/
theorem pruneItems_cons {index : Nat} {items : List Value}
    (elsewhere : ∀ position, index ≤ position → position < index + items.length →
      atPosition position segment = false) (paths : List (List String)) :
    pruneItems ((segment :: rest) :: paths) index items = pruneItems paths index items := by
  -- The position grows with the items passed, up to the end of the list.
  induction items generalizing index with
  | nil => rfl
  | cons item items ih =>
    have here : atPosition index segment = false :=
      elsewhere index (Nat.le_refl _) (by simp)
    rw [pruneItems, pruneItems, behind_cons_of_not_names here, ih]
    exact fun position reaches within =>
      elsewhere position (by omega) (by simp only [List.length_cons]; omega)

/-- A path whose segment is none of the names takes nothing from the fields. -/
theorem pruneFields_cons {fields : List (String × Value)}
    (elsewhere : ∀ field ∈ fields, segment ≠ field.1) (paths : List (List String)) :
    pruneFields ((segment :: rest) :: paths) fields = pruneFields paths fields := by
  induction fields with
  | nil => rfl
  | cons field fields ih =>
    obtain ⟨name, value⟩ := field
    -- The segment names none of the fields, so the path is behind none of them.
    obtain ⟨here, elsewhere⟩ := List.forall_mem_cons.1 elsewhere
    rw [pruneFields, pruneFields, behind_cons_of_not_names (by simpa [isNamed] using here),
      ih elsewhere]

/-- No more items are left than there were. -/
theorem length_pruneItems_le (paths : List (List String)) (index : Nat) (items : List Value) :
    (pruneItems paths index items).length ≤ items.length := by
  induction items generalizing index with
  | nil => exact Nat.le_refl _
  | cons item items ih =>
    have later := ih (index + 1)
    -- An item is left out or pruned, and never added.
    rw [pruneItems]
    split <;> simp only [List.length_cons] <;> omega

/-- All items are left if no path ends at one of them. -/
theorem length_pruneItems {paths : List (List String)} {index : Nat} {items : List Value}
    (kept : ∀ position, index ≤ position → position < index + items.length →
      [] ∉ behind (atPosition position) paths) :
    (pruneItems paths index items).length = items.length := by
  -- The position grows with the items passed, and no path ends at any of them.
  induction items generalizing index with
  | nil => rfl
  | cons item items ih =>
    have here := kept index (Nat.le_refl _) (by simp)
    have later : (pruneItems paths (index + 1) items).length = items.length :=
      ih fun position reaches within =>
        kept position (by omega) (by simp only [List.length_cons]; omega)
    rw [pruneItems]
    simp only [here, if_false, List.length_cons, later]

/-- What holds of all names holds of those that are left. -/
theorem forall_mem_pruneFields {paths : List (List String)} {fields : List (String × Value)}
    (among : String → Prop) (each : ∀ field ∈ fields, among field.1) :
    ∀ field ∈ pruneFields paths fields, among field.1 := by
  -- A field is dropped or stays in its place, so that the names are among those before.
  induction fields with
  | nil => exact each
  | cons given fields ih =>
    obtain ⟨name, value⟩ := given
    obtain ⟨first, later⟩ := List.forall_mem_cons.1 each
    rw [pruneFields]
    split
    next => exact ih later
    next => exact List.forall_mem_cons.2 ⟨first, ih later⟩

end Elsewhere

section Deletion

variable {segment : String} {value : Value}

/-- There is nothing to delete behind a slot that is not there. -/
theorem deletePath_of_child? (absent : value.child? segment = none) (rest : List String) :
    value.deletePath (segment :: rest) = value := by
  -- What could be deleted could be read.
  have nothing : ¬(delete? (segment :: rest) value).isSome = true := fun deleted => by
    have found := ((isSome_delete? _ _).1 deleted).2
    simp [get?, absent] at found
  rw [deletePath, Option.not_isSome_iff_eq_none.1 nothing, Option.getD_none]

/-- A deletion behind an item changes the item. -/
theorem deletePath_item {front back : List Value}
    (written : Numeral.position? segment = some front.length) (item : Value) (next : String)
    (rest : List String) :
    (Value.array (front ++ item :: back)).deletePath (segment :: next :: rest) =
      .array (front ++ item.deletePath (next :: rest) :: back) := by
  -- The next segment is deleted inside the item at that position, which stays in its place.
  have found : (Value.array (front ++ item :: back)).child? segment = some item := by
    simp [child?, written]
  rw [deletePath, deletePath, delete?_cons_cons, found, Option.bind_some]
  cases delete? (next :: rest) item with
  | none => rfl
  | some item' => simp [set, written]

/-- A deletion of an item moves those behind it. -/
theorem deletePath_last_item {front back : List Value}
    (written : Numeral.position? segment = some front.length) (item : Value) :
    (Value.array (front ++ item :: back)).deletePath [segment] = .array (front ++ back) := by
  simp [deletePath, delete?, written, eraseIdx_length]

/-- A deletion behind a field changes its value. -/
theorem deletePath_field {front back : Fields Value} (below : ∀ field ∈ front, field.1 < segment)
    (inner : Value) (next : String) (rest : List String) :
    (Value.object (front ++ (segment, inner) :: back)).deletePath (segment :: next :: rest) =
      .object (front ++ (segment, inner.deletePath (next :: rest)) :: back) := by
  -- The next segment is deleted inside the field of that name, which stays in its place.
  have found : (Value.object (front ++ (segment, inner) :: back)).child? segment = some inner :=
    Fields.get?_append below inner back
  rw [deletePath, deletePath, delete?_cons_cons, found, Option.bind_some]
  cases delete? (next :: rest) inner with
  | none => rfl
  | some inner' => simp [set, Fields.insert_append below]

/-- A deletion of a field leaves the other ones. -/
theorem deletePath_last_field {front back : Fields Value}
    (below : ∀ field ∈ front, field.1 < segment) (above : ∀ field ∈ back, segment < field.1)
    (inner : Value) :
    (Value.object (front ++ (segment, inner) :: back)).deletePath [segment] =
      .object (front ++ back) := by
  simp [deletePath, delete?, Fields.get?_append below, Fields.erase_append below above]

end Deletion

variable {value : Value} {paths : List (List String)}

section Steady

variable {segment : String} {rest : List String}

/-- In an object only paths through the same field move what others lead through. -/
theorem shifts_object {fields : Fields Value} {other : String} {path path' : List String} :
    Shifts (.object fields) (segment :: path) (other :: path') ↔
      segment = other ∧ ∃ inner, fields.get? segment = some inner ∧ Shifts inner path path' := by
  -- Only an array can have its items moved at the segment itself.
  constructor
  · intro shifts
    cases shifts with
    | inside slot found later =>
      rcases slot with same | ⟨items, index, holds, _⟩
      · exact ⟨same, _, found, later⟩
      · cases holds.1
  · rintro ⟨rfl, inner, found, later⟩
    exact .inside (.inl rfl) found later

/-- A segment is a name that it equals. -/
theorem isNamed_eq_true {name : String} : isNamed name segment = true ↔ segment = name := by
  simp [isNamed]

/-- A segment names a position that its text writes. -/
theorem atPosition_eq_true {index : Nat} :
    atPosition index segment = true ↔ Numeral.position? segment = some index := by
  simp [atPosition]

/-- Paths that do not move what a path leads through do not end at an item that it leads through, or
at one before it. -/
theorem nil_not_mem_behind {items : List Value} {index position : Nat}
    (steady : ∀ path ∈ paths, ¬Shifts (.array items) path (segment :: rest))
    (written : Numeral.position? segment = some index) (within : index < items.length)
    (reaches : position ≤ index) : [] ∉ behind (atPosition position) paths := by
  intro ends
  obtain ⟨other, named, member⟩ := mem_behind.1 ends
  exact steady _ member (.here (atPosition_eq_true.1 named) written reaches within)

/-- Paths that do not move what a path leads through do not do so in an item. -/
theorem steady_item {items : List Value} {index : Nat} {item : Value}
    (steady : ∀ path ∈ paths, ¬Shifts (.array items) path (segment :: rest))
    (written : Numeral.position? segment = some index) (found : items[index]? = some item) :
    ∀ path ∈ behind (atPosition index) paths, ¬Shifts item path rest := by
  intro path member shifts
  obtain ⟨other, named, member⟩ := mem_behind.1 member
  have written' := atPosition_eq_true.1 named
  -- A shift inside the item is one of the whole, behind the same segment.
  have within := (List.getElem?_eq_some_iff.1 found).1
  refine steady _ member (.inside (.inr ⟨items, index, ⟨rfl, written', within⟩,
    ⟨rfl, written, within⟩⟩) ?_ shifts)
  rw [child?, written', Option.bind_some, found]

/-- Paths that do not move what a path leads through do not do so in the value of a field. -/
theorem steady_field {fields : Fields Value} {inner : Value}
    (steady : ∀ path ∈ paths, ¬Shifts (.object fields) path (segment :: rest))
    (found : fields.get? segment = some inner) :
    ∀ path ∈ behind (isNamed segment) paths, ¬Shifts inner path rest := by
  intro path member shifts
  obtain ⟨other, named, member⟩ := mem_behind.1 member
  rw [isNamed_eq_true.1 named] at member
  exact steady _ member (.inside (.inl rfl) found shifts)

end Steady

section Step

variable {segment : String} {rest : List String}
  (inside : ∀ (inner : Value) (paths : List (List String)), inner.Ordered →
    (∀ path ∈ paths, ¬Shifts inner path rest) →
      (prune paths inner).deletePath rest = prune (rest :: paths) inner)

include inside

/-- One more path takes from an array what it leads to in the array as it was, if the paths before
did not move what it leads through. -/
theorem deletePath_prune_array {items : List Value} (ordered : Ordered (.array items))
    (steady : ∀ path ∈ paths, ¬Shifts (.array items) path (segment :: rest)) :
    (prune paths (.array items)).deletePath (segment :: rest) =
      prune ((segment :: rest) :: paths) (.array items) := by
  rw [prune, prune]
  cases written : Numeral.position? segment with
  | none =>
    -- The segment names no position at all.
    have elsewhere (position : Nat) : atPosition position segment = false := by
      simp [atPosition, written]
    rw [deletePath_of_child? (by simp [child?, written]),
      pruneItems_cons fun position _ _ => elsewhere position]
  | some index =>
    have elsewhere (position : Nat) (other : position ≠ index) :
        atPosition position segment = false := by
      simp [atPosition, written, Ne.symm other]
    by_cases within : index < items.length
    · obtain ⟨item, found⟩ : ∃ item, items[index]? = some item := by simp [within]
      have later := inside item _ (ordered.item item (List.mem_of_getElem? found))
        (steady_item steady written found)
      have kept (position : Nat) (reaches : position ≤ index) :=
        nil_not_mem_behind steady written within reaches
      obtain ⟨front, back, rfl, rfl⟩ := split_of_getElem? found
      -- No path ends at the item or at one before it, so that it is where it was.
      have unmoved : (pruneItems paths 0 front).length = front.length :=
        length_pruneItems fun position _ before => kept position (by omega)
      rw [pruneItems_append, pruneItems_append, Nat.zero_add, pruneItems, pruneItems,
        behind_cons_of_names (atPosition_eq_true.2 written), if_neg (kept _ (Nat.le_refl _)),
        pruneItems_cons fun position _ before => elsewhere position (by omega),
        pruneItems_cons fun position after _ => elsewhere position (by omega)]
      cases rest with
      | nil => rw [deletePath_last_item (unmoved ▸ written), if_pos (.head _)]
      | cons next rest =>
        rw [deletePath_item (unmoved ▸ written), later, if_neg (by simp [kept])]
    · -- What is left ends before the position as well.
      have left := length_pruneItems_le paths 0 items
      have beyond : (pruneItems paths 0 items)[index]? = none :=
        List.getElem?_eq_none (by omega)
      rw [deletePath_of_child? (by rw [child?, written, Option.bind_some, beyond]),
        pruneItems_cons fun position _ before => elsewhere position (by omega)]

/-- One more path takes from an object what it leads to in the object as it was, if the paths before
did not move what it leads through. -/
theorem deletePath_prune_object {fields : Fields Value} (ordered : Ordered (.object fields))
    (steady : ∀ path ∈ paths, ¬Shifts (.object fields) path (segment :: rest)) :
    (prune paths (.object fields)).deletePath (segment :: rest) =
      prune ((segment :: rest) :: paths) (.object fields) := by
  rw [prune, prune]
  -- Where no field of the name is left there is nothing to delete.
  have gone (apart : ∀ field ∈ pruneFields paths fields, field.1 ≠ segment) :
      (Value.object (pruneFields paths fields)).deletePath (segment :: rest) =
        .object (pruneFields paths fields) := by
    refine deletePath_of_child? ?_ rest
    exact Fields.get?_eq_none.2 apart
  cases found : fields.get? segment with
  | none =>
    have elsewhere := Fields.get?_eq_none.1 found
    rw [gone (forall_mem_pruneFields (· ≠ segment) elsewhere),
      pruneFields_cons fun field member => (elsewhere field member).symm]
  | some inner =>
    have later := inside inner _ (ordered.get? found) (steady_field steady found)
    obtain ⟨front, back, rfl, below, above⟩ := Fields.split_of_get? ordered.ascending found
    -- What is left of the fields before and behind stays on its side of the name.
    have below' : ∀ field ∈ pruneFields paths front, field.1 < segment :=
      forall_mem_pruneFields (· < segment) below
    have above' : ∀ field ∈ pruneFields paths back, segment < field.1 :=
      forall_mem_pruneFields (segment < ·) above
    -- The name itself is gone already, goes now, or has its value changed.
    rw [pruneFields_append, pruneFields] at gone ⊢
    rw [pruneFields_append, pruneFields, behind_cons_of_names (isNamed_eq_true.2 rfl),
      pruneFields_cons fun field member => (String.ne_of_lt (below field member)).symm,
      pruneFields_cons fun field member => String.ne_of_lt (above field member)]
    by_cases ends : [] ∈ behind (isNamed segment) paths
    · rw [if_pos ends] at gone ⊢
      rw [if_pos (.tail _ ends), gone]
      intro field member
      rcases List.mem_append.1 member with member | member
      · exact String.ne_of_lt (below' field member)
      · exact (String.ne_of_lt (above' field member)).symm
    · rw [if_neg ends]
      cases rest with
      | nil => rw [deletePath_last_field below' above', if_pos (.head _)]
      | cons next rest =>
        rw [deletePath_field below', later, if_neg (by simp [ends])]

end Step

/-- One more path takes from a value what it leads to in the value as it was, if the paths before
did not move what it leads through. -/
theorem deletePath_prune {path : List String} (ordered : value.Ordered)
    (steady : ∀ given ∈ paths, ¬Shifts value given path) :
    (prune paths value).deletePath path = prune (path :: paths) value := by
  -- The path is followed inwards, and at each level the slot still holds what it held.
  induction path generalizing value paths with
  | nil => exact prune_congr (by simp) value
  | cons segment rest ih =>
    cases value with
    | array items =>
      exact deletePath_prune_array (fun inner paths ordered steady => ih ordered steady) ordered
        steady
    | object fields =>
      exact deletePath_prune_object (fun inner paths ordered steady => ih ordered steady) ordered
        steady
    | _ => exact deletePath_of_child? rfl rest

mutual

/-- Without paths a value is left as it is. -/
theorem prune_nil (value : Value) : prune [] value = value := by
  match value with
  | .array items => rw [prune, pruneItems_nil 0 items]
  | .object fields => rw [prune, pruneFields_nil fields]
  | .null | .bool _ | .int _ | .uint _ | .float _ | .string _ | .bytes _ | .delete | .nothing => rfl

/-- Without paths all items are left. -/
theorem pruneItems_nil (index : Nat) (items : List Value) : pruneItems [] index items = items := by
  match items with
  | [] => rfl
  | item :: rest =>
    rw [pruneItems, pruneItems_nil (index + 1) rest, behind, List.filterMap_nil, prune_nil item,
      if_neg (by simp)]

/-- Without paths all fields are left. -/
theorem pruneFields_nil (fields : List (String × Value)) : pruneFields [] fields = fields := by
  match fields with
  | [] => rfl
  | (name, value) :: rest =>
    rw [pruneFields, pruneFields_nil rest, behind, List.filterMap_nil, prune_nil value,
      if_neg (by simp)]

end

/-- Paths that are deleted in turn take what they lead to in the value as it was, if none of them
moves what a later one leads through. -/
theorem foldl_deletePath_prune (ordered : value.Ordered) (later : List (List String))
    (steady : later.Pairwise fun earlier later => ¬Shifts value earlier later)
    (clear : ∀ given ∈ paths, ∀ path ∈ later, ¬Shifts value given path) :
    later.foldl (fun value path => value.deletePath path) (prune paths value) =
      prune (later.reverse ++ paths) value := by
  -- What is deleted piles up, so that each step is a deletion after all those before it.
  induction later generalizing paths with
  | nil => rfl
  | cons path rest ih =>
    obtain ⟨first, steady⟩ := List.pairwise_cons.1 steady
    have next := deletePath_prune ordered fun given member => clear given member path (.head _)
    rw [List.foldl_cons, next, ih steady, List.reverse_cons, List.append_assoc, List.singleton_append]
    exact List.forall_mem_cons.2 ⟨first, fun given member other inside =>
      clear given member other (.tail _ inside)⟩

end Reshape.Value

namespace Reshape.Collection

open Value

variable {fields : Fields Value} {paths : List (List String)}

/-- Paths none of which moves what a later one leads through take what they lead to. -/
theorem without_of_pairwise (ordered : Ordered (.object fields))
    (steady : paths.Pairwise fun earlier later => ¬Shifts (.object fields) earlier later) :
    without paths (.object fields) = .ok (prune paths (.object fields)) := by
  -- The deletions are those of the reversed paths, and pruning does not ask for their order.
  have taken : paths.foldl (fun value path => value.deletePath path) (prune [] (.object fields)) =
      prune (paths.reverse ++ []) (.object fields) :=
    foldl_deletePath_prune ordered paths steady (by simp)
  have same : prune (paths.reverse ++ []) (.object fields) = prune paths (.object fields) :=
    prune_congr (by simp) _
  rw [prune_nil, same] at taken
  exact congrArg Except.ok taken

/-- An object without what stands at some paths. If no path moves what a later one leads through,
what is left is the object without the fields and items that the paths lead to in it, and with all
others; and if no two paths move what the other one leads through, it is so in whatever order the
paths are given. -/
theorem without_eq_prune (ordered : Ordered (.object fields)) (paths : List (List String)) :
    (paths.Pairwise (fun earlier later => ¬Shifts (.object fields) earlier later) →
      without paths (.object fields) = .ok (prune paths (.object fields))) ∧
    (paths.Pairwise (fun path path' =>
        ¬Shifts (.object fields) path path' ∧ ¬Shifts (.object fields) path' path) →
      ∀ paths', paths'.Perm paths →
        without paths' (.object fields) = .ok (prune paths (.object fields))) := by
  refine ⟨without_of_pairwise ordered, fun apart paths' perm => ?_⟩
  have apart' := (perm.pairwise_iff fun both => both.symm).2 apart
  rw [without_of_pairwise ordered (apart'.imp And.left)]
  exact congrArg Except.ok (prune_congr (fun segment rest => perm.mem_iff) _)

section Sample

/-- An object with an array of three numbers. -/
def numbered : Fields Value :=
  [("a", .array [.int 1, .int 2, .int 3]), ("b", .object [("c", .null), ("d", .null)])]

/-- The names of the object stand in order. -/
theorem ordered_numbered : Ordered (.object numbered) := by
  -- The fields of the example stand in order, and so do those of the object inside.
  refine .object (by simp only [numbered, Fields.Ordered]; decide) ?_
  simp only [numbered, List.forall_mem_cons, List.not_mem_nil, false_implies, implies_true, and_true]
  refine ⟨.array ?_, .object (by simp only [Fields.Ordered]; decide) ?_⟩
  · simp only [List.forall_mem_cons, List.not_mem_nil, false_implies, implies_true, and_true]
    exact ⟨.leaf rfl, .leaf rfl, .leaf rfl⟩
  · simp only [List.forall_mem_cons, List.not_mem_nil, false_implies, implies_true, and_true]
    exact ⟨.leaf rfl, .leaf rfl⟩

/-- The last item is taken before the first one, or a field in either order with the last item. -/
theorem without_eq_prune_numbered :
    Ordered (.object numbered) ∧
      without [["a", "2"], ["a", "0"]] (.object numbered) =
        .ok (prune [["a", "2"], ["a", "0"]] (.object numbered)) ∧
      without [["b", "c"], ["a", "2"]] (.object numbered) =
        .ok (prune [["a", "2"], ["b", "c"]] (.object numbered)) := by
  -- The first item stands before the third, so that what is taken last moves nothing that matters.
  have descending : ¬Shifts (.object numbered) ["a", "2"] ["a", "0"] := by
    rw [shifts_object]
    rintro ⟨_, inner, found, shifts⟩
    obtain rfl : .array [.int 1, .int 2, .int 3] = inner := Option.some.inj found
    cases shifts with
    | here written written' reaches _ =>
      obtain rfl : 2 = _ := Option.some.inj written
      obtain rfl : 0 = _ := Option.some.inj written'
      cases reaches
    | inside _ _ later => cases later
  refine ⟨ordered_numbered, (without_eq_prune ordered_numbered _).1 ?_,
    (without_eq_prune ordered_numbered _).2 ?_ _ (.swap _ _ [])⟩
  · simpa using descending
  · simp [shifts_object]

/-- Not in every order do paths take what they lead to: if the first item of an array is taken, the
second one stands where the first one stood, and the third one where the second one stood. -/
theorem not_without_perm :
    ¬∀ (fields : Fields Value) (paths paths' : List (List String)), Ordered (.object fields) →
      paths'.Perm paths →
        without paths' (.object fields) = without paths (.object fields) ∧
          without paths (.object fields) = .ok (prune paths (.object fields)) := by
  intro claimed
  obtain ⟨same, meant⟩ := claimed numbered [["a", "0"], ["a", "1"]] [["a", "1"], ["a", "0"]]
    ordered_numbered (.swap _ _ [])
  -- Taken in this order, the second path finds the third item at its place.
  have ascending : without [["a", "0"], ["a", "1"]] (.object numbered) =
      .ok (.object [("a", .array [.int 2]), ("b", .object [("c", .null), ("d", .null)])]) := rfl
  have descending : without [["a", "1"], ["a", "0"]] (.object numbered) =
      .ok (.object [("a", .array [.int 3]), ("b", .object [("c", .null), ("d", .null)])]) := rfl
  rw [ascending, descending] at same
  simp at same

end Sample

end Reshape.Collection
