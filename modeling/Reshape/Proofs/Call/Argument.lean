import Reshape.Proofs.Call.Binding

/-!
Arguments that are related one by one get slots that are: where an argument goes depends on its name
and position only.
-/

namespace Reshape

variable {ε : Type} {related : ε → ε → Prop}

/-- Lists that are related stay so with related items put at a position. -/
theorem forall₂_set {α β : Type} {values : α → β → Prop} {items : List α} {items' : List β}
    (pairs : List.Forall₂ values items items') (index : Nat) {a : α} {b : β} (same : values a b) :
    List.Forall₂ values (items.set index a) (items'.set index b) := by
  -- The position counts down along both lists.
  induction pairs generalizing index with
  | nil => exact .nil
  | cons first rest ih =>
    cases index with
    | zero => exact .cons same rest
    | succ index => exact .cons first (ih index)

/-- Lists that are related have related items at a position, or none. -/
theorem forall₂_getElem? {α β : Type} {values : α → β → Prop} {items : List α} {items' : List β}
    (pairs : List.Forall₂ values items items') (index : Nat) :
    Option.Rel values items[index]? items'[index]? := by
  -- Pairs are found at the same index on both sides.
  induction pairs generalizing index with
  | nil => exact .none
  | cons first _ ih =>
    cases index with
    | zero => exact .some first
    | succ index => simpa using ih index

/-- What a relation says of the items of one list alone holds of each. -/
theorem forall₂_left {α β : Type} {property : α → Prop} {items : List α} {items' : List β}
    (pairs : List.Forall₂ (fun item _ => property item) items items') :
    ∀ item ∈ items, property item := by
  induction pairs with
  | nil => simp
  | cons first _ ih => simpa using ⟨first, ih⟩

/-- Two arguments are related if they have the same name and related expressions. -/
inductive Argument.Related (related : ε → ε → Prop) : Argument ε → Argument ε → Prop where
  | same (name : Option String) {expr expr' : ε} (agree : related expr expr') :
      Related related ⟨name, expr⟩ ⟨name, expr'⟩

section Bound

variable [Bindable ε] {parameter : Parameter} {argument : Option ε} {slot : Slot ε}

/-- A query parameter is bound to an expression, or to nothing if nothing stands for a missing
argument. -/
theorem Slot.of_bind_query (kind : parameter.kind = .query)
    (bound : Slot.bind parameter argument = .ok slot) :
    (∃ expr, slot = .query expr) ∨ (parameter.standard = none ∧ slot = .absent) := by
  cases argument with
  | some expr =>
    rw [Slot.bind, Slot.ofArgument, if_pos kind] at bound
    exact .inl ⟨expr, (Except.ok.inj bound).symm⟩
  | none =>
    simp only [Slot.bind, Slot.missing?] at bound
    -- A constant stands for a missing argument, or the argument may be left out.
    cases standard : parameter.standard with
    | some constant =>
      simp only [standard, kind, if_true] at bound
      exact .inl ⟨_, (Except.ok.inj bound).symm⟩
    | none =>
      simp only [standard] at bound
      split at bound
      next found =>
        split at found
        · obtain rfl := Option.some.inj found
          exact .inr ⟨rfl, (Except.ok.inj bound).symm⟩
        · cases found
      next => cases bound

/-- A parameter that takes literals only, and for which a constant stands, is bound to a value with
every property that the constant and all converted values have. -/
theorem Slot.of_bind_static {property : Value → Prop} {constant : Value}
    (kind : parameter.kind ≠ .query) (isStatic : parameter.isStatic = true)
    (standard : parameter.standard = some constant) (holds : property constant)
    (converts : ∀ given converted, parameter.kind.convert given = .ok converted →
      property converted)
    (bound : Slot.bind parameter argument = .ok slot) :
    ∃ value, slot = .value value ∧ property value := by
  cases argument with
  | some expr =>
    rw [Slot.bind, Slot.ofArgument, if_neg kind] at bound
    split at bound
    next given _ =>
      unfold Slot.ofValue Slot.ofNull at bound
      rw [standard] at bound
      -- A literal null leaves the constant, and any other literal is converted.
      split at bound
      · exact ⟨constant, (Except.ok.inj bound).symm, holds⟩
      · split at bound
        next converted same =>
          exact ⟨converted, (Except.ok.inj bound).symm, converts given converted same⟩
        next => cases bound
    next =>
      rw [if_pos isStatic] at bound
      cases bound
  | none =>
    simp only [Slot.bind, Slot.missing?, standard, if_neg kind] at bound
    exact ⟨constant, (Except.ok.inj bound).symm, holds⟩

end Bound

namespace Signature

/-- Related arguments are placed alike. -/
theorem place_related (parameters : List Parameter) (given : Nat)
    {arguments arguments' : List (Argument ε)}
    (pairs : List.Forall₂ (Argument.Related related) arguments arguments') (next : Option Nat)
    {placed placed' : List (Option ε)}
    (before : List.Forall₂ (Option.Rel related) placed placed') :
    Outcome.Agree (List.Forall₂ (Option.Rel related))
      (place parameters given next placed arguments)
      (place parameters given next placed' arguments') := by
  -- Where the next argument goes depends on names and on what is taken already, which is the same
  -- on both sides.
  induction pairs generalizing next placed placed' with
  | nil => simpa only [place] using .value before
  | @cons argument argument' rest rest' first _ ih =>
    obtain ⟨name, agree⟩ := first
    cases name with
    | none =>
      cases next with
      | none => exact .failure _ _
      | some next =>
        simp only [place]
        split
        · exact ih _ (forall₂_set before next (.some agree))
        · exact .failure _ _
    | some name =>
      simp only [place]
      cases parameters.findIdx? fun parameter => parameter.name == name with
      | none => exact .failure _ _
      | some index =>
        -- The place that the name stands for is taken on both sides or free on both.
        have taken := forall₂_getElem? before index
        dsimp only
        generalize placed[index]? = old at taken ⊢
        generalize placed'[index]? = old' at taken ⊢
        cases taken with
        | none => exact .failure _ _
        | some same =>
          cases same with
          | none => exact ih _ (forall₂_set before index (.some agree))
          | some _ => exact .failure _ _

/-- Arguments are placed among the places that there are. -/
theorem length_of_place {parameters : List Parameter} {given : Nat} {next : Option Nat}
    {placed result : List (Option ε)} {arguments : List (Argument ε)}
    (made : place parameters given next placed arguments = .ok result) :
    result.length = placed.length := by
  -- Each argument is put at a place that exists.
  induction arguments generalizing next placed with
  | nil =>
    rw [place] at made
    rw [Except.ok.inj made]
  | cons argument rest ih =>
    obtain ⟨_ | name, expr⟩ := argument
    · cases next with
      | none => cases made
      | some next =>
        simp only [place] at made
        split at made
        · rw [ih made, List.length_set]
        · cases made
    · simp only [place] at made
      split at made
      · cases made
      · split at made
        · rw [ih made, List.length_set]
        · cases made

variable [Bindable ε]

/-- The slot of an argument that a variadic signature collects. -/
def collected (expr : ε) : Slot ε :=
  match Bindable.literal? expr with
  | some value => .value value
  | none => .dynamic expr

/-- Collected arguments are related if the slots of related expressions are. -/
theorem collect_related {slotted : Slot ε → Slot ε → Prop}
    (each : ∀ expr expr', related expr expr' → slotted (collected expr) (collected expr'))
    {arguments arguments' : List (Argument ε)}
    (pairs : List.Forall₂ (Argument.Related related) arguments arguments') :
    Outcome.Agree (List.Forall₂ slotted) (collect arguments) (collect arguments') := by
  -- The later arguments are collected first, as an argument with a name among them is a fault.
  induction pairs with
  | nil => exact .value .nil
  | @cons argument argument' rest rest' first _ ih =>
    obtain ⟨name, agree⟩ := first
    cases name with
    | some name => exact .failure _ _
    | none => exact ih.bind fun slots slots' same => .value (.cons (each _ _ agree) same)

/-- Arguments bound to parameters are related if the slots of related arguments are. -/
theorem bindEach_related {slotted : Parameter → Slot ε → Slot ε → Prop}
    (each : ∀ parameter argument argument', Option.Rel related argument argument' →
      Outcome.Match (slotted parameter) (Slot.bind parameter argument)
        (Slot.bind parameter argument'))
    (parameters : List Parameter) {placed placed' : List (Option ε)}
    (pairs : List.Forall₂ (Option.Rel related) placed placed') :
    Outcome.Match (ByParameter slotted parameters) (bindEach parameters placed)
      (bindEach parameters placed') := by
  -- The parameters and what is placed for them are passed together.
  induction parameters generalizing placed placed' with
  | nil =>
    cases pairs with
    | nil => exact .value .done
    | cons _ _ => exact .value .done
  | cons parameter parameters ih =>
    cases pairs with
    | nil => exact .value .short
    | cons same rest =>
      refine (each parameter _ _ same).bind fun slot slot' first => ?_
      exact (ih rest).bind fun slots slots' later => .value (.next first later)

/-- Related arguments get related slots, if they are bound at all. -/
theorem bindSlots_related {declared : Parameter → Slot ε → Slot ε → Prop}
    {gathered : Slot ε → Slot ε → Prop}
    (each : ∀ parameter argument argument', Option.Rel related argument argument' →
      Outcome.Match (declared parameter) (Slot.bind parameter argument)
        (Slot.bind parameter argument'))
    (eachGathered : ∀ expr expr', related expr expr' →
      gathered (collected expr) (collected expr'))
    (signature : Signature) {arguments arguments' : List (Argument ε)}
    (pairs : List.Forall₂ (Argument.Related related) arguments arguments') :
    Outcome.Match (signature.Related declared gathered) (signature.bindSlots arguments)
      (signature.bindSlots arguments') := by
  unfold bindSlots Signature.Related
  -- A variadic signature collects its arguments; any other one places them before it binds them.
  split
  next variadic => exact (collect_related eachGathered pairs).toMatch.mapError _ _
  next =>
    -- At first no place is taken.
    have free : List.Forall₂ (Option.Rel related)
        (signature.parameters.map fun _ => (none : Option ε))
        (signature.parameters.map fun _ => none) := by
      rw [List.forall₂_map_left_iff, List.forall₂_map_right_iff, List.forall₂_same]
      exact fun _ _ => .none
    have placed := place_related signature.parameters arguments.length pairs (some 0) free
    rw [← pairs.length_eq]
    exact (placed.toMatch.mapError _ _).bind fun _ _ same =>
      bindEach_related each signature.parameters same

/-- Parameters that are bound to as many places each have the slot of an argument, or of none. -/
theorem slots_of_bindEach {parameters : List Parameter} {placed : List (Option ε)}
    (places : placed.length = parameters.length) {slots : List (Slot ε)}
    (bound : bindEach parameters placed = .ok slots) :
    List.Forall₂ (fun parameter slot => ∃ argument, Slot.bind parameter argument = .ok slot)
      parameters slots := by
  -- Places and parameters go by pairs, each giving the slot of its parameter.
  induction parameters generalizing placed slots with
  | nil =>
    obtain rfl := List.length_eq_zero_iff.1 places
    rw [← Except.ok.inj bound]
    exact .nil
  | cons parameter parameters ih =>
    cases placed with
    | nil => cases places
    | cons argument rest =>
      obtain ⟨slot, first, bound⟩ := Outcome.of_bind_eq_ok bound
      obtain ⟨others, later, bound⟩ := Outcome.of_bind_eq_ok bound
      obtain rfl := Except.ok.inj bound
      exact .cons ⟨argument, first⟩ (ih (Nat.succ.inj places) later)

/-- Each declared parameter of a call has the slot of an argument, or of none. -/
theorem slots_of_bindSlots {signature : Signature} (declared : signature.isVariadic = false)
    {arguments : List (Argument ε)} {slots : List (Slot ε)}
    (bound : signature.bindSlots arguments = .ok slots) :
    List.Forall₂ (fun parameter slot => ∃ argument, Slot.bind parameter argument = .ok slot)
      signature.parameters slots := by
  unfold bindSlots at bound
  rw [declared, if_neg (by simp)] at bound
  obtain ⟨placed, made, bound⟩ := Outcome.of_bind_eq_ok bound
  refine slots_of_bindEach ?_ bound
  -- There is one place for each parameter from the start.
  cases placing : place signature.parameters arguments.length (some 0)
      (signature.parameters.map fun _ => none) arguments with
  | ok result =>
    rw [placing] at made
    obtain rfl := Except.ok.inj made
    rw [length_of_place placing, List.length_map]
  | error fault =>
    rw [placing] at made
    cases made

end Signature

end Reshape
