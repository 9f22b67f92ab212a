import Reshape.Call.Binding
import Reshape.Proofs.Eval.Collection

/-!
Arguments that correspond: two calls bind the same values, and expressions that are related, perhaps
of different types. What a call reads of its arguments cannot tell them apart.
-/

namespace Reshape

/-- What two lists hold for the parameters is related, parameter by parameter. -/
inductive ByParameter {σ τ : Type} (related : Parameter → σ → τ → Prop) :
    List Parameter → List σ → List τ → Prop where
  | done {slots : List σ} {slots' : List τ} : ByParameter related [] slots slots'
  | short {parameters : List Parameter} : ByParameter related parameters [] []
  | next {parameter : Parameter} {parameters : List Parameter} {slot : σ} {slot' : τ}
      {slots : List σ} {slots' : List τ} (first : related parameter slot slot')
      (rest : ByParameter related parameters slots slots') :
      ByParameter related (parameter :: parameters) (slot :: slots) (slot' :: slots')

/-- What a parameter has is related to something. -/
theorem ByParameter.of_mem_zip {σ τ : Type} {related : Parameter → σ → τ → Prop}
    {parameters : List Parameter} {slots : List σ} {slots' : List τ}
    (agree : ByParameter related parameters slots slots') {parameter : Parameter} {slot : σ}
    (member : (parameter, slot) ∈ parameters.zip slots) :
    ∃ slot', related parameter slot slot' := by
  -- Zipping stops with the shorter list, so a pair is either the first one or among the later
  -- ones.
  induction agree with
  | done => simp at member
  | short => simp at member
  | next first _ ih =>
    rcases List.mem_cons.1 member with same | later
    · cases same
      exact ⟨_, first⟩
    · exact ih later

/-- What stands first under a name is related. -/
theorem ByParameter.find {σ τ : Type} {related : Parameter → σ → τ → Prop}
    {parameters : List Parameter} {slots : List σ} {slots' : List τ}
    (agree : ByParameter related parameters slots slots') (name : String) :
    Option.Rel
      (fun slot slot' => ∃ parameter ∈ parameters, parameter.name = name ∧
        related parameter slot slot')
      (((parameters.zip slots).find? fun (parameter, _) => parameter.name == name).map Prod.snd)
      (((parameters.zip slots').find? fun (parameter, _) => parameter.name == name).map
        Prod.snd) := by
  induction agree with
  | done => exact .none
  | short =>
    -- Without slots nothing is found on either side.
    rw [List.zip_nil_right, List.zip_nil_right]
    exact .none
  | @next parameter parameters slot slot' slots slots' first rest ih =>
    rw [List.zip_cons_cons, List.zip_cons_cons, List.find?_cons, List.find?_cons]
    -- The search stops here on both sides, or goes on on both, as it looks at names only.
    by_cases named : parameter.name = name
    · simp only [named, beq_self_eq_true, Option.map_some]
      exact .some ⟨parameter, .head _, named, first⟩
    · simp only [beq_eq_false_iff_ne.2 named]
      generalize Option.map Prod.snd (List.find? _ (parameters.zip slots)) = left at ih ⊢
      generalize Option.map Prod.snd (List.find? _ (parameters.zip slots')) = right at ih ⊢
      cases ih with
      | some found =>
        obtain ⟨other, member, same, agree⟩ := found
        exact .some ⟨other, .tail _ member, same, agree⟩
      | none => exact .none

/-- What two lists hold for a signature is related: for its parameters, or for the arguments that it
collects. -/
def Signature.Related {σ τ : Type} (declared : Parameter → σ → τ → Prop)
    (collected : σ → τ → Prop) (signature : Signature) (slots : List σ) (slots' : List τ) : Prop :=
  if signature.isVariadic then List.Forall₂ collected slots slots'
  else ByParameter declared signature.parameters slots slots'

/-- What is related for a signature in one way and so in another is related in the other way. -/
theorem Signature.Related.mono {σ τ : Type} {declared declared' : Parameter → σ → τ → Prop}
    {collected collected' : σ → τ → Prop} {signature : Signature} {slots : List σ} {slots' : List τ}
    (related : signature.Related declared collected slots slots')
    (weaken : ∀ parameter slot slot', declared parameter slot slot' →
      declared' parameter slot slot')
    (weaken' : ∀ slot slot', collected slot slot' → collected' slot slot') :
    signature.Related declared' collected' slots slots' := by
  -- The signature decides in which of the two ways its slots are related.
  unfold Related at related ⊢
  split at related
  next variadic =>
    rw [if_pos variadic]
    exact related.imp weaken'
  next declared =>
    rw [if_neg declared]
    generalize signature.parameters = parameters at related ⊢
    induction related with
    | done => exact .done
    | short => exact .short
    | next first _ ih => exact .next (weaken _ _ _ first) ih

variable {ε ε' : Type}

/-- Two slots correspond: they hold the same value, or related expressions, or nothing. -/
inductive Slot.Alike (related : ε → ε' → Prop) : Slot ε → Slot ε' → Prop where
  | absent : Alike related .absent .absent
  | value (value : Value) : Alike related (.value value) (.value value)
  | query {expr : ε} {expr' : ε'} (agree : related expr expr') :
      Alike related (.query expr) (.query expr')

/-- The arguments of two calls correspond; which expressions are related depends on whether they run
on the target. -/
structure Bound.Alike (related : Bool → ε → ε' → Prop) (bound : Bound ε) (bound' : Bound ε') :
    Prop where
  parameters : bound'.parameters = bound.parameters
  slots : ByParameter (fun parameter => Slot.Alike (related parameter.isScoped)) bound.parameters
    bound.slots bound'.slots
  extra : List.Forall₂ (Slot.Alike (related false)) bound.extra bound'.extra

namespace Bound.Alike

variable {related : Bool → ε → ε' → Prop} {bound : Bound ε} {bound' : Bound ε'}

/-- The slots found under a name correspond. -/
theorem slot? (alike : Bound.Alike related bound bound') (name : String) :
    Option.Rel
      (fun slot slot' => ∃ parameter ∈ bound.parameters, parameter.name = name ∧
        Slot.Alike (related parameter.isScoped) slot slot')
      (bound.slot? name) (bound'.slot? name) := by
  unfold Bound.slot?
  -- Both search the same parameters.
  rw [alike.parameters]
  exact alike.slots.find name

/-- A name has the same value. -/
theorem get? (alike : Bound.Alike related bound bound') (name : String) :
    bound'.get? name = bound.get? name := by
  have found := alike.slot? name
  unfold Bound.get?
  revert found
  generalize bound.slot? name = slot
  generalize bound'.slot? name = slot'
  -- Only a slot with a value gives one, and corresponding slots have the same.
  rintro (⟨_, _, _, absent | value | agree⟩ | _) <;> rfl

/-- The collected values are the same. -/
theorem values (alike : Bound.Alike related bound bound') : bound'.values = bound.values := by
  obtain ⟨_, _, pairs⟩ := alike
  unfold Bound.values
  revert pairs
  generalize bound.extra = slots
  generalize bound'.extra = slots'
  intro pairs
  -- The collected slots are read one after the other, and only values are kept.
  induction pairs with
  | nil => rfl
  | cons first _ ih =>
    cases first with
    | value value => simpa using ih
    | _ => simpa using ih

/-- A name is read alike. -/
theorem read? {α : Type} (alike : Bound.Alike related bound bound') (name what : String)
    (read : Value → Option α) : bound'.read? name what read = bound.read? name what read := by
  simp only [Bound.read?, alike.get? name]

/-- A name has the same text, if any. -/
theorem string? (alike : Bound.Alike related bound bound') (name : String) :
    bound'.string? name = bound.string? name := alike.read? name _ _

/-- A name has the same text. -/
theorem string (alike : Bound.Alike related bound bound') (name : String) :
    bound'.string name = bound.string name := by
  simp only [Bound.string, alike.string? name]

/-- A name has the same integer, if any. -/
theorem int? (alike : Bound.Alike related bound bound') (name : String) :
    bound'.int? name = bound.int? name := alike.read? name _ _

/-- A name has the same integer. -/
theorem int (alike : Bound.Alike related bound bound') (name : String) :
    bound'.int name = bound.int name := by
  simp only [Bound.int, alike.int? name]

/-- A name has the same truth value, if any. -/
theorem bool? (alike : Bound.Alike related bound bound') (name : String) :
    bound'.bool? name = bound.bool? name := alike.read? name _ _

/-- A name has the same truth value. -/
theorem bool (alike : Bound.Alike related bound bound') (name : String) :
    bound'.bool name = bound.bool name := by
  simp only [Bound.bool, alike.bool? name]

/-- A name that has a value has the same one. -/
theorem value (alike : Bound.Alike related bound bound') (name : String) :
    bound'.value name = bound.value name := by
  simp only [Bound.value, alike.get? name]

variable [Bindable ε] [Bindable ε']

/-- A name has related expressions, if any; literals of the same value have to be related. -/
theorem query? (alike : Bound.Alike related bound bound')
    (literals : ∀ isScoped value,
      related isScoped (Bindable.ofLiteral value) (Bindable.ofLiteral value))
    {name : String} {isScoped : Bool}
    (scoping : ∀ parameter ∈ bound.parameters, parameter.name = name →
      parameter.isScoped = isScoped) :
    Option.Rel (related isScoped) (bound.query? name) (bound'.query? name) := by
  have found := alike.slot? name
  unfold Bound.query?
  revert found
  generalize bound.slot? name = slot
  generalize bound'.slot? name = slot'
  -- A value stands for the literal of it, so related expressions are literals in that case.
  rintro (⟨parameter, member, named, absent | value | agree⟩ | _)
  · exact .none
  · exact .some (literals _ _)
  · exact .some (scoping parameter member named ▸ agree)
  · exact .none

/-- A name that has an expression has related ones. -/
theorem query (alike : Bound.Alike related bound bound')
    (literals : ∀ isScoped value,
      related isScoped (Bindable.ofLiteral value) (Bindable.ofLiteral value))
    {name : String} {isScoped : Bool}
    (scoping : ∀ parameter ∈ bound.parameters, parameter.name = name →
      parameter.isScoped = isScoped) :
    Outcome.Agree (related isScoped) (bound.query name) (bound'.query name) := by
  have found := alike.query? literals scoping
  unfold Bound.query
  revert found
  generalize bound.query? name = expr
  generalize bound'.query? name = expr'
  -- An expression that is missing is missing on both sides.
  rintro (agree | _)
  · exact .value agree
  · exact .failure _ _

end Bound.Alike

/-- Two slots of queries have corresponding slots at a call. -/
def Slot.Resolves (memories : Memory → Memory → Prop) (related : ε → ε' → Prop)
    (run : ε → Eval Value) (run' : ε' → Eval Value) (parameter : Option Parameter)
    (slot : Slot ε) (slot' : Slot ε') : Prop :=
  Eval.Agree memories (Slot.Alike related) (slot.resolve run parameter)
    (slot'.resolve run' parameter)

section Resolution

variable {memories : Memory → Memory → Prop} {related : Bool → ε → ε' → Prop}
  {run : ε → Eval Value} {run' : ε' → Eval Value}

/-- Slots that correspond at a call one by one do so together. -/
theorem ByParameter.resolve {parameters : List Parameter} {slots : List (Slot ε)}
    {slots' : List (Slot ε')}
    (agree : ByParameter
      (fun parameter => Slot.Resolves memories (related parameter.isScoped) run run'
        (some parameter)) parameters slots slots') :
    Eval.Agree memories
      (ByParameter (fun parameter => Slot.Alike (related parameter.isScoped)) parameters)
      ((parameters.zip slots).mapM fun (parameter, slot) => slot.resolve run (some parameter))
      ((parameters.zip slots').mapM fun (parameter, slot) =>
        slot.resolve run' (some parameter)) := by
  induction agree with
  | done => exact .pure .done
  | short =>
    rw [List.zip_nil_right, List.zip_nil_right]
    exact .pure .short
  | next first _ ih =>
    -- The first slots resolve to related ones, and the others follow from related memories.
    rw [List.zip_cons_cons, List.zip_cons_cons, List.mapM_cons, List.mapM_cons]
    refine first.bind fun slot slot' same => ?_
    exact ih.map fun slots slots' rest => .next same rest

/-- Arguments that correspond one by one at a call do so together. -/
theorem Bound.resolve_related {bound : Bound ε} {bound' : Bound ε'}
    (parameters : bound'.parameters = bound.parameters)
    (slots : ByParameter
      (fun parameter => Slot.Resolves memories (related parameter.isScoped) run run'
        (some parameter)) bound.parameters bound.slots bound'.slots)
    (extra : List.Forall₂ (Slot.Resolves memories (related false) run run' none) bound.extra
      bound'.extra) :
    Eval.Agree memories
      (fun result result' => Bound.Alike related result result' ∧
        result.parameters = bound.parameters)
      (bound.resolve run) (bound'.resolve run') := by
  unfold Bound.resolve
  rw [parameters]
  -- Declared slots are resolved before those that are collected.
  refine slots.resolve.bind fun slots slots' same => ?_
  refine (Collection.mapM_related (fun _ _ same => same) extra).map fun extra extra' rest => ?_
  exact ⟨⟨rfl, same, rest⟩, rfl⟩

/-- The arguments of two calls correspond when their slots do at the call. -/
theorem Signature.Related.resolve {signature : Signature} {slots : List (Slot ε)}
    {slots' : List (Slot ε')}
    (agree : signature.Related
      (fun parameter => Slot.Resolves memories (related parameter.isScoped) run run'
        (some parameter))
      (Slot.Resolves memories (related false) run run' none) slots slots') :
    Eval.Agree memories
      (fun bound bound' => Bound.Alike related bound bound' ∧
        bound.parameters = (signature.attach slots).parameters)
      ((signature.attach slots).resolve run) ((signature.attach slots').resolve run') := by
  unfold Signature.Related at agree
  unfold Signature.attach
  -- A signature either collects its arguments or declares them, so one of the two lists is empty.
  split at agree
  next variadic =>
    rw [if_pos variadic, if_pos variadic]
    exact Bound.resolve_related rfl .done agree
  next declared =>
    rw [if_neg declared, if_neg declared]
    exact Bound.resolve_related rfl agree .nil

end Resolution

end Reshape
