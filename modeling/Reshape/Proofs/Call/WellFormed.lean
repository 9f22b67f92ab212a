import Reshape.Expr.Basic
import Reshape.Proofs.Call.Placement

/-!
Well-formed calls: the arguments are arranged, and every parameter permits what the call gives for
it. A call is bound just if it is well-formed, and each slot then holds what it has to. Both depend
on the names of the arguments, and not on their order.
-/

namespace Reshape

variable {ε : Type} [Bindable ε]

/-- Only null is null. -/
theorem Value.isNull_iff {value : Value} : value.isNull = true ↔ value = .null := by
  cases value <;> simp [isNull]

namespace Slot

variable {parameter : Parameter} {argument : Option ε} {slot : Slot ε}

/-- A parameter has no argument: there is none, or it is the literal of null and may be left out. -/
inductive Omits (parameter : Parameter) : Option ε → Prop where
  | missing : Omits parameter none
  | null {expr : ε} (kind : parameter.kind ≠ .query) (isOptional : parameter.isOptional = true)
      (literal : Bindable.literal? expr = some .null) : Omits parameter (some expr)

/-- What a slot holds for a parameter and its argument. -/
inductive Holds (parameter : Parameter) : Option ε → Slot ε → Prop where
  | query {expr : ε} (kind : parameter.kind = .query) : Holds parameter (some expr) (.query expr)
  | literal {expr : ε} {constant converted : Value} (kind : parameter.kind ≠ .query)
      (literal : Bindable.literal? expr = some constant) (given : ¬ Omits parameter (some expr))
      (converts : parameter.kind.convert constant = .ok converted) :
      Holds parameter (some expr) (.value converted)
  | dynamic {expr : ε} (kind : parameter.kind ≠ .query) (computed : Bindable.literal? expr = none)
      (isStatic : parameter.isStatic = false) : Holds parameter (some expr) (.dynamic expr)
  | standard {argument : Option ε} {constant : Value} (kind : parameter.kind ≠ .query)
      (omits : Omits parameter argument) (standard : parameter.standard = some constant) :
      Holds parameter argument (.value constant)
  | standardQuery {argument : Option ε} {constant : Value} (kind : parameter.kind = .query)
      (omits : Omits parameter argument) (standard : parameter.standard = some constant) :
      Holds parameter argument (.query (Bindable.ofLiteral constant))
  | absent {argument : Option ε} (isOptional : parameter.isOptional = true)
      (omits : Omits parameter argument) (standard : parameter.standard = none) :
      Holds parameter argument .absent

/-- What a parameter permits: that an argument is missing if it may be left out or something stands
for it, any query, a literal that is converted or omitted, and what is computed unless it takes
literals only. -/
def Permits (parameter : Parameter) : Option ε → Prop
  | none => parameter.isOptional = true ∨ parameter.standard ≠ none
  | some expr => parameter.kind ≠ .query →
    match Bindable.literal? expr with
    | some constant => (constant = .null ∧ parameter.isOptional = true) ∨
        ∃ converted, parameter.kind.convert constant = .ok converted
    | none => parameter.isStatic = false

/-- A literal is omitted just if it is null and may be left out. -/
theorem omits_some_iff {expr : ε} {constant : Value} (kind : parameter.kind ≠ .query)
    (literal : Bindable.literal? expr = some constant) :
    Omits parameter (some expr) ↔ constant = .null ∧ parameter.isOptional = true := by
  constructor
  · rintro (_ | ⟨_, isOptional, null⟩)
    exact ⟨Option.some.inj (literal.symm.trans null), isOptional⟩
  · rintro ⟨rfl, isOptional⟩
    exact .null kind isOptional literal

/-- What stands for an argument that is omitted. -/
theorem holds_ofNull (kind : parameter.kind ≠ .query) (isOptional : parameter.isOptional = true)
    (omits : Omits parameter argument) : Holds parameter argument (ofNull parameter) := by
  unfold ofNull
  split
  next constant standard => exact .standard kind omits standard
  next standard => exact .absent isOptional omits standard

/-- A parameter without an argument gets the slot that stands for it. -/
theorem holds_of_missing (bound : missing? parameter = some slot) : Holds parameter none slot := by
  -- A default makes a slot, or an optional parameter is left absent.
  unfold missing? at bound
  split at bound
  next constant standard =>
    obtain rfl := Option.some.inj bound
    split
    next kind => exact .standardQuery kind .missing standard
    next kind => exact .standard kind .missing standard
  next standard =>
    split at bound
    next isOptional =>
      obtain rfl := Option.some.inj bound
      exact .absent isOptional .missing standard
    next => cases bound

/-- A literal gets the slot of its conversion, unless it is omitted. -/
theorem holds_of_ofValue {expr : ε} {constant : Value} (kind : parameter.kind ≠ .query)
    (literal : Bindable.literal? expr = some constant)
    (bound : ofValue parameter constant = .ok slot) : Holds parameter (some expr) slot := by
  -- A null for an optional parameter counts as left out; any other literal is converted.
  have omits := omits_some_iff kind literal
  rw [← Value.isNull_iff, ← Bool.and_eq_true] at omits
  unfold ofValue at bound
  split at bound
  next null =>
    obtain rfl := Except.ok.inj bound
    exact holds_ofNull kind (Bool.and_eq_true_iff.1 null).2 (omits.2 null)
  next given =>
    split at bound
    next converted converts =>
      obtain rfl := Except.ok.inj bound
      exact .literal kind literal (omits.not.2 given) converts
    next => cases bound

/-- A slot that is made holds what it has to. -/
theorem holds_of_bind (bound : Slot.bind parameter argument = .ok slot) :
    Holds parameter argument slot := by
  -- The cases are those of the binding: nothing given, a query, a literal or a computed argument.
  cases argument with
  | none =>
    rw [Slot.bind] at bound
    split at bound
    next made =>
      obtain rfl := Except.ok.inj bound
      exact holds_of_missing made
    next => cases bound
  | some expr =>
    rw [Slot.bind, ofArgument] at bound
    split at bound
    next kind =>
      obtain rfl := Except.ok.inj bound
      exact .query kind
    next kind =>
      split at bound
      next constant literal => exact holds_of_ofValue kind literal bound
      next computed =>
        split at bound
        next => cases bound
        next isStatic =>
          obtain rfl := Except.ok.inj bound
          exact .dynamic kind computed (Bool.eq_false_iff.2 isStatic)

/-- A slot is made just if it holds what it has to. -/
theorem bind_eq_ok_iff :
    Slot.bind parameter argument = .ok slot ↔ Holds parameter argument slot := by
  -- Conversely each way to hold a slot is one branch of the binding.
  refine ⟨holds_of_bind, fun holds => ?_⟩
  cases holds with
  | query kind => rw [Slot.bind, ofArgument, if_pos kind]
  | literal kind literal given converts =>
    rw [omits_some_iff kind literal, ← Value.isNull_iff, ← Bool.and_eq_true] at given
    rw [Slot.bind, ofArgument, if_neg kind, literal]
    simp only [ofValue, if_neg given, converts]
  | dynamic kind computed isStatic =>
    rw [Slot.bind, ofArgument, if_neg kind, computed]
    simp [isStatic]
  | standard kind omits standard =>
    cases omits with
    | missing => simp [Slot.bind, missing?, standard, kind]
    | null _ isOptional literal =>
      simp [Slot.bind, ofArgument, kind, literal, ofValue, ofNull, Value.isNull, isOptional,
        standard]
  | standardQuery kind omits standard =>
    cases omits with
    | missing => simp [Slot.bind, missing?, standard, kind]
    | null other => exact absurd kind other
  | absent isOptional omits standard =>
    cases omits with
    | missing => simp [Slot.bind, missing?, standard, isOptional]
    | null kind _ literal =>
      simp [Slot.bind, ofArgument, kind, literal, ofValue, ofNull, Value.isNull, isOptional,
        standard]

/-- A parameter for which nothing is given has a slot just if it permits that. -/
theorem exists_holds_none_iff :
    (∃ slot : Slot ε, Holds parameter none slot) ↔ Permits parameter (none : Option ε) := by
  -- A default or being optional permits the lack of an argument, and makes the slot.
  constructor
  · rintro ⟨slot, holds⟩
    cases holds with
    | standard _ _ standard => exact .inr (by simp [standard])
    | standardQuery _ _ standard => exact .inr (by simp [standard])
    | absent isOptional => exact .inl isOptional
  · intro permitted
    cases standard : parameter.standard with
    | some constant =>
      by_cases kind : parameter.kind = .query
      · exact ⟨_, .standardQuery kind .missing standard⟩
      · exact ⟨_, .standard kind .missing standard⟩
    | none =>
      have isOptional := permitted.resolve_right (not_not_intro standard)
      exact ⟨_, .absent isOptional .missing standard⟩

/-- A parameter that is no query has a slot for an expression just if it permits the expression. -/
theorem exists_holds_some_iff {expr : ε} (kind : parameter.kind ≠ .query) :
    (∃ slot, Holds parameter (some expr) slot) ↔ Permits parameter (some expr) := by
  simp only [Permits, ne_eq, kind, not_false_eq_true, true_implies]
  -- A literal is omitted or converted; anything else has to be allowed to be computed.
  cases literal : Bindable.literal? expr with
  | some constant =>
    dsimp only
    by_cases omits : Omits parameter (some expr)
    · have null := (omits_some_iff kind literal).1 omits
      exact iff_of_true ⟨_, holds_ofNull kind null.2 omits⟩ (.inl null)
    · constructor
      · rintro ⟨slot, holds⟩
        cases holds with
        | query query => exact absurd query kind
        | literal _ found _ converts =>
          obtain rfl := Option.some.inj (literal.symm.trans found)
          exact .inr ⟨_, converts⟩
        | dynamic _ found => cases literal.symm.trans found
        | standard _ omitted => exact absurd omitted omits
        | standardQuery query => exact absurd query kind
        | absent _ omitted => exact absurd omitted omits
      · rintro (⟨rfl, isOptional⟩ | ⟨converted, converts⟩)
        · exact absurd (.null kind isOptional literal) omits
        · exact ⟨_, .literal kind literal omits converts⟩
  | none =>
    constructor
    · rintro ⟨slot, holds⟩
      cases holds with
      | query query => exact absurd query kind
      | literal _ found => cases literal.symm.trans found
      | dynamic _ _ isStatic => exact isStatic
      | standard _ omits => cases omits with | null _ _ found => cases literal.symm.trans found
      | standardQuery query => exact absurd query kind
      | absent _ omits => cases omits with | null _ _ found => cases literal.symm.trans found
    · exact fun isStatic => ⟨_, .dynamic kind literal isStatic⟩

/-- A parameter has a slot just for what it permits. -/
theorem exists_holds_iff :
    (∃ slot, Holds parameter argument slot) ↔ Permits parameter argument := by
  cases argument with
  | none => exact exists_holds_none_iff
  | some expr =>
    -- A query takes each expression; for all other kinds it depends on the argument.
    by_cases kind : parameter.kind = .query
    · exact iff_of_true ⟨_, .query kind⟩ fun other => absurd kind other
    · exact exists_holds_some_iff kind

end Slot

namespace Signature

open Argument

variable {signature : Signature} {parameters : List Parameter}
  {arguments arguments' : List (Argument ε)} {placed : List (Option ε)} {slots : List (Slot ε)}

/-- Parameters are bound in order, each to the slot of its argument. -/
theorem bindEach_eq_ok_iff : bindEach parameters placed = .ok slots ↔
    List.Forall₂ (fun pair slot => Slot.Holds pair.1 pair.2 slot) (parameters.zip placed)
      slots := by
  -- Parameters and arguments are walked together, one slot for each.
  induction parameters generalizing placed slots with
  | nil => simp [bindEach, eq_comm]
  | cons parameter parameters ih =>
    cases placed with
    | nil => simp [bindEach, eq_comm]
    | cons argument placed =>
      rw [List.zip_cons_cons]
      constructor
      · intro bound
        obtain ⟨slot, first, bound⟩ := Outcome.of_bind_eq_ok bound
        obtain ⟨others, later, bound⟩ := Outcome.of_bind_eq_ok bound
        obtain rfl := Except.ok.inj bound
        exact .cons (Slot.bind_eq_ok_iff.1 first) (ih.1 later)
      · rintro (_ | ⟨first, later⟩)
        rw [bindEach, Slot.bind_eq_ok_iff.2 first, ih.2 later]
        rfl

/-- The arguments of a call are arranged, and the parameters permit them. -/
structure WellFormed (signature : Signature) (arguments : List (Argument ε)) : Prop where
  arranged : Arranges signature.parameters arguments
  permitted : ∀ pair ∈ assigned signature.parameters arguments, Slot.Permits pair.1 pair.2

/-- Everything in a list is related to something just if the list is related to one. -/
theorem exists_forall₂_iff {α β : Type} {related : α → β → Prop} {items : List α} :
    (∃ others, List.Forall₂ related items others) ↔
      ∀ item ∈ items, ∃ other, related item other := by
  -- The choices for the first item and for the others are independent.
  induction items with
  | nil => simp
  | cons item items ih =>
    rw [List.forall_mem_cons, ← ih]
    constructor
    · rintro ⟨_, _ | ⟨first, later⟩⟩
      exact ⟨⟨_, first⟩, ⟨_, later⟩⟩
    · rintro ⟨⟨_, first⟩, ⟨_, later⟩⟩
      exact ⟨_, .cons first later⟩

section Fixed

variable (fixed : signature.isVariadic = false)
  (distinct : (signature.parameters.map Parameter.name).Nodup)

include fixed distinct

/-- A call is bound to slots just if its arguments are arranged, and the slots hold what they have
to. -/
theorem bindSlots_eq_ok_iff : signature.bindSlots arguments = .ok slots ↔
    Arranges signature.parameters arguments ∧
      List.Forall₂ (fun pair slot => Slot.Holds pair.1 pair.2 slot)
        (assigned signature.parameters arguments) slots := by
  rw [bindSlots, fixed, if_neg Bool.false_ne_true]
  constructor
  · intro bound
    -- Arguments that have slots have been placed.
    obtain ⟨placed, made, bound⟩ := Outcome.of_bind_eq_ok bound
    cases placing : place signature.parameters arguments.length (some 0)
        (signature.parameters.map fun _ => none) arguments with
    | ok result =>
      rw [placing] at made
      obtain rfl := Except.ok.inj made
      obtain ⟨arranged, rfl⟩ := (place_eq_ok_iff distinct).1 placing
      rw [bindEach_eq_ok_iff, zip_given] at bound
      exact ⟨arranged, bound⟩
    | error fault =>
      rw [placing] at made
      cases made
  · rintro ⟨arranged, holds⟩
    rw [(place_eq_ok_iff distinct).2 ⟨arranged, rfl⟩]
    exact bindEach_eq_ok_iff.2 (by rwa [zip_given])

/-- A call is bound just if it is bound to slots, and then to these and nothing else. -/
theorem bind_eq_ok_iff {bound : Bound ε} : signature.bind arguments = .ok bound ↔
    Arranges signature.parameters arguments ∧
      List.Forall₂ (fun pair slot => Slot.Holds pair.1 pair.2 slot)
        (assigned signature.parameters arguments) bound.slots ∧
      bound.parameters = signature.parameters ∧ bound.extra = [] := by
  -- The slots are bound first, and what is attached to them is fixed by the signature.
  constructor
  · intro made
    unfold bind at made
    cases slotted : signature.bindSlots arguments with
    | ok slots =>
      rw [slotted] at made
      obtain rfl := Except.ok.inj made
      obtain ⟨arranged, holds⟩ := (bindSlots_eq_ok_iff fixed distinct).1 slotted
      rw [attach, fixed]
      exact ⟨arranged, holds, rfl, rfl⟩
    | error error =>
      rw [slotted] at made
      cases made
  · obtain ⟨parameters, slots, extra⟩ := bound
    rintro ⟨arranged, holds, rfl, rfl⟩
    rw [bind, (bindSlots_eq_ok_iff fixed distinct).2 ⟨arranged, holds⟩, Except.map, attach, fixed]
    rfl

/-- A call is bound just if it is well-formed. -/
theorem exists_bind_iff : (∃ bound, signature.bind arguments = .ok bound) ↔
    WellFormed signature arguments := by
  simp only [bind_eq_ok_iff fixed distinct]
  -- Slots for all parameters exist just if each parameter permits its argument.
  constructor
  · rintro ⟨bound, arranged, holds, _⟩
    refine ⟨arranged, fun pair among => Slot.exists_holds_iff.1 ?_⟩
    exact exists_forall₂_iff.1 ⟨_, holds⟩ pair among
  · rintro ⟨arranged, permitted⟩
    obtain ⟨slots, holds⟩ := exists_forall₂_iff.2 fun pair among =>
      Slot.exists_holds_iff.2 (permitted pair among)
    exact ⟨⟨signature.parameters, slots, []⟩, arranged, holds, rfl, rfl⟩

/-- A call that is bound is bound alike with its named arguments in another order. -/
theorem bind_of_reordered (reordered : Reordered arguments arguments') {bound : Bound ε}
    (made : signature.bind arguments = .ok bound) : signature.bind arguments' = .ok bound := by
  rw [bind_eq_ok_iff fixed distinct] at made ⊢
  obtain ⟨arranged, holds, rest⟩ := made
  -- Each parameter is given the same argument, so the slots that hold it are the same.
  have same :
      assigned signature.parameters arguments' = assigned signature.parameters arguments := by
    simp only [assigned, reordered.given?_eq arranged.once]
  exact ⟨arranged.reordered reordered, same ▸ holds, rest⟩

/-- A call is bound just if it is well-formed: its arguments are arranged, and every parameter
permits what is given for it. It is then bound to the declared parameters, each with a slot that
holds what it has to, and the order of its named arguments does not matter. -/
theorem bind_iff_wellFormed (arguments : List (Argument ε)) :
    ((∃ bound, signature.bind arguments = .ok bound) ↔ WellFormed signature arguments) ∧
      (∀ bound, signature.bind arguments = .ok bound →
        bound.parameters = signature.parameters ∧ bound.extra = [] ∧
          List.Forall₂ (fun pair slot => Slot.Holds pair.1 pair.2 slot)
            (assigned signature.parameters arguments) bound.slots) ∧
      ∀ arguments', Reordered arguments arguments' → ∀ bound,
        signature.bind arguments = .ok bound ↔ signature.bind arguments' = .ok bound := by
  -- That it binds, to what it does, and in which order the names stand are lemmas of their own.
  refine ⟨exists_bind_iff fixed distinct, fun bound made => ?_,
    fun arguments' reordered bound => ?_⟩
  · obtain ⟨_, holds, parameters, extra⟩ := (bind_eq_ok_iff fixed distinct).1 made
    exact ⟨parameters, extra, holds⟩
  · exact ⟨bind_of_reordered fixed distinct reordered,
      bind_of_reordered fixed distinct reordered.symm⟩

end Fixed

/-- The upper bound of a slice, which is null, before the lower one. -/
def swappedBounds : List (Argument Expr) :=
  [⟨some "high", .literal .null⟩, ⟨some "low", .literal (.uint 1)⟩]

/-- The bounds of a slice are well-formed in either order, and bound alike. -/
theorem bind_iff_wellFormed_slice : WellFormed Method.slice.signature swappedBounds ∧
    ∀ bound, Method.slice.signature.bind swappedBounds = .ok bound ↔
      Method.slice.signature.bind swappedBounds.reverse = .ok bound := by
  have fixed : Method.slice.signature.isVariadic = false := rfl
  obtain ⟨wellFormed, _, reordered⟩ := bind_iff_wellFormed fixed (by decide) swappedBounds
  refine ⟨wellFormed.1 ⟨⟨Method.slice.signature.parameters, [.value (.int 1), .absent], []⟩, rfl⟩,
    reordered _ ⟨(List.reverse_perm _).symm, ?_⟩⟩
  exact .cons (by simp) (.cons (by simp) .nil)

end Signature

end Reshape
