import Reshape.Call.Binding
import Reshape.Proofs.Eval.Ensures
import Reshape.Proofs.Value.Contract

/-!
Arguments that keep to a contract: their values are results, and the expressions among them have a
property, which may depend on whether they run on the target of a method.
-/

namespace Reshape

variable {ε : Type} {contract : Contract} {holds : Bool → ε → Prop} {bound : Bound ε}

/-- A slot at a call keeps to a contract: it holds a result, an expression with a property, or
nothing. -/
inductive Slot.Keeps (contract : Contract) (holds : ε → Prop) : Slot ε → Prop where
  | absent : Keeps contract holds .absent
  | value {value : Value} (result : contract.Result value) : Keeps contract holds (.value value)
  | query {expr : ε} (inside : holds expr) : Keeps contract holds (.query expr)

/-- A value in the form of a kind is a result if the value is. -/
theorem Kind.result_of_convert? {kind : Kind} {value converted : Value}
    (result : contract.Result value) (given : kind.convert? value = some converted) :
    contract.Result converted := by
  -- A conversion gives the value as it is, or a text or a number, which is an atom.
  unfold Kind.convert? at given
  split at given
  · exact Option.some.inj given ▸ result
  · exact Option.some.inj given ▸ result
  · exact Option.some.inj given ▸ result
  · exact Option.some.inj given ▸ .inr (contract.atom rfl)
  · obtain ⟨_, _, rfl⟩ := Option.map_eq_some_iff.1 given
    exact .inr (contract.atom rfl)
  · obtain ⟨_, _, rfl⟩ := Option.map_eq_some_iff.1 given
    exact .inr (contract.atom rfl)
  · exact Option.some.inj given ▸ result
  · exact Option.some.inj given ▸ result
  · exact Option.some.inj given ▸ result
  · cases given

/-- The slot that a result leaves keeps to a contract, if what stands for a missing one does. -/
theorem Slot.keeps_ofValue {parameter : Parameter} {value : Value} {holds : ε → Prop}
    (standard : ∀ constant ∈ parameter.standard, contract.Result constant)
    (result : contract.Result value) :
    Outcome.Ensures (Slot.Keeps contract holds) contract.Reported (Slot.ofValue parameter value) := by
  -- A null for an optional parameter leaves what stands for it; other values are converted.
  unfold Slot.ofValue
  split
  · unfold Slot.ofNull
    cases given : parameter.standard with
    | some constant => exact .value (.value (standard constant given))
    | none => exact .value .absent
  · unfold Kind.convert
    cases given : parameter.kind.convert? value with
    | some converted => exact .value (.value (Kind.result_of_convert? result given))
    | none => exact .failure (contract.unplaced rfl)

/-- A slot before a call keeps to a contract: it does so already, or the expression whose value it
gets at the call has a property. -/
inductive Slot.Readies (contract : Contract) (holds reads : ε → Prop) : Slot ε → Prop where
  | ready {slot : Slot ε} (keeps : Slot.Keeps contract holds slot) :
      Readies contract holds reads slot
  | dynamic {expr : ε} (inside : reads expr) : Readies contract holds reads (.dynamic expr)

/-- The arguments of a call keep to a contract. -/
structure Bound.Keeps (contract : Contract) (holds : Bool → ε → Prop) (bound : Bound ε) : Prop where
  slots : ∀ parameter slot, (parameter, slot) ∈ bound.parameters.zip bound.slots →
    Slot.Keeps contract (holds parameter.isScoped) slot
  extra : ∀ slot ∈ bound.extra, Slot.Keeps contract (holds false) slot

/-- The arguments before a call keep to a contract. -/
structure Bound.Readies (contract : Contract) (holds : Bool → ε → Prop) (reads : ε → Prop)
    (bound : Bound ε) : Prop where
  slots : ∀ parameter slot, (parameter, slot) ∈ bound.parameters.zip bound.slots →
    Slot.Readies contract (holds parameter.isScoped) reads slot
  extra : ∀ slot ∈ bound.extra, Slot.Readies contract (holds false) reads slot

/-- Arguments keep to a contract with weaker properties of the expressions among them. -/
theorem Bound.Readies.mono {holds' : Bool → ε → Prop} {reads reads' : ε → Prop}
    (readies : Bound.Readies contract holds reads bound)
    (weaken : ∀ isScoped expr, holds isScoped expr → holds' isScoped expr)
    (weaken' : ∀ expr, reads expr → reads' expr) : Bound.Readies contract holds' reads' bound := by
  -- Only the expressions in the slots are asked for.
  have slot {isScoped : Bool} {slot : Slot ε}
      (before : Slot.Readies contract (holds isScoped) reads slot) :
      Slot.Readies contract (holds' isScoped) reads' slot := by
    cases before with
    | dynamic inside => exact .dynamic (weaken' _ inside)
    | ready keeps =>
      cases keeps with
      | absent => exact .ready .absent
      | value result => exact .ready (.value result)
      | query inside => exact .ready (.query (weaken _ _ inside))
  exact ⟨fun parameter given member => slot (readies.slots parameter given member),
    fun given member => slot (readies.extra given member)⟩

/-- Arguments that are known before a call keep to a contract then. -/
theorem Bound.Readies.keeps {reads : ε → Prop} (readies : Bound.Readies contract holds reads bound)
    (static : bound.isDynamic = false) : Bound.Keeps contract holds bound := by
  -- A slot that waits for its value would make the call dynamic.
  have known {slot : Slot ε} {holds : ε → Prop} (readies : Slot.Readies contract holds reads slot)
      (member : slot ∈ bound.slots ++ bound.extra) : Slot.Keeps contract holds slot := by
    cases readies with
    | ready keeps => exact keeps
    | dynamic _ =>
      have never := List.any_eq_false.1 static _ member
      exact absurd rfl never
  refine ⟨fun parameter slot member => ?_, fun slot member => ?_⟩
  · exact known (readies.slots parameter slot member)
      (List.mem_append_left _ (List.of_mem_zip member).2)
  · exact known (readies.extra slot member) (List.mem_append_right _ member)

namespace Bound

/-- A value that has to be there is there, or its absence is reported. -/
theorem keeps_demand {α : Type} {values : α → Prop} {found : Option α} (name : String)
    (each : ∀ a ∈ found, values a) :
    Outcome.Ensures values contract.Reported (demand name found) := by
  cases found with
  | some a => exact .value (each a rfl)
  | none => exact .failure (contract.unplaced rfl)

/-- A value is read as what is asked for, or it is reported. -/
theorem keeps_read? {α : Type} (bound : Bound ε) (name what : String) (read : Value → Option α) :
    Outcome.Ensures (fun _ => True) contract.Reported (bound.read? name what read) := by
  -- Without a value nothing is read, and a value of another form is reported.
  unfold read?
  cases bound.get? name with
  | none => exact .value trivial
  | some value =>
    dsimp only
    cases read value with
    | some result => exact .value trivial
    | none => exact .failure (contract.expected what value)

/-- A text is read, or what is wrong is reported. -/
theorem keeps_string (bound : Bound ε) (name : String) :
    Outcome.Ensures (fun _ => True) contract.Reported (bound.string name) :=
  (keeps_read? bound name _ _).bind fun _ _ => keeps_demand name fun _ _ => trivial

/-- An integer is read, or what is wrong is reported. -/
theorem keeps_int (bound : Bound ε) (name : String) :
    Outcome.Ensures (fun _ => True) contract.Reported (bound.int name) :=
  (keeps_read? bound name _ _).bind fun _ _ => keeps_demand name fun _ _ => trivial

/-- A truth value is read, or what is wrong is reported. -/
theorem keeps_bool (bound : Bound ε) (name : String) :
    Outcome.Ensures (fun _ => True) contract.Reported (bound.bool name) :=
  (keeps_read? bound name _ _).bind fun _ _ => keeps_demand name fun _ _ => trivial

namespace Keeps

/-- The slot of a parameter keeps to the contract. -/
theorem slot? (keeps : Bound.Keeps contract holds bound) {name : String} {slot : Slot ε}
    (found : bound.slot? name = some slot) :
    ∃ parameter ∈ bound.parameters, parameter.name = name ∧
      Slot.Keeps contract (holds parameter.isScoped) slot := by
  obtain ⟨⟨parameter, other⟩, first, rfl⟩ := Option.map_eq_some_iff.1 found
  have member := List.mem_of_find?_eq_some first
  have named := List.find?_some first
  exact ⟨parameter, (List.of_mem_zip member).1, by simpa using named, keeps.slots _ _ member⟩

/-- The value of a parameter is a result. -/
theorem get? (keeps : Bound.Keeps contract holds bound) {name : String} :
    ∀ value ∈ bound.get? name, contract.Result value := by
  intro value given
  -- Only a slot with a value gives one.
  unfold Bound.get? at given
  split at given
  next other found =>
    obtain rfl := Option.some.inj given
    obtain ⟨_, _, _, kept⟩ := keeps.slot? found
    cases kept with
    | value result => exact result
  next => cases given

/-- The value of a parameter is a result, or its absence is reported. -/
theorem value (keeps : Bound.Keeps contract holds bound) (name : String) :
    Outcome.Ensures contract.Result contract.Reported (bound.value name) :=
  keeps_demand name keeps.get?

variable [Bindable ε]

/-- The expression of a parameter has the property, if the literals of results have it. -/
theorem query? (keeps : Bound.Keeps contract holds bound)
    (literals : ∀ isScoped value, contract.Result value →
      holds isScoped (Bindable.ofLiteral value))
    {name : String} {isScoped : Bool}
    (scoping : ∀ parameter ∈ bound.parameters, parameter.name = name →
      parameter.isScoped = isScoped) :
    ∀ expr ∈ bound.query? name, holds isScoped expr := by
  intro expr given
  -- An expression in a slot has the property there, and a value is asked for as a literal.
  unfold Bound.query? at given
  split at given
  next other found =>
    obtain rfl := Option.some.inj given
    obtain ⟨parameter, member, named, kept⟩ := keeps.slot? found
    cases kept with
    | query inside => exact scoping parameter member named ▸ inside
  next value found =>
    obtain rfl := Option.some.inj given
    obtain ⟨_, _, _, kept⟩ := keeps.slot? found
    cases kept with
    | value result => exact literals _ _ result
  next => cases given

/-- The expression of a parameter has the property, or its absence is reported. -/
theorem query (keeps : Bound.Keeps contract holds bound)
    (literals : ∀ isScoped value, contract.Result value →
      holds isScoped (Bindable.ofLiteral value))
    {name : String} {isScoped : Bool}
    (scoping : ∀ parameter ∈ bound.parameters, parameter.name = name →
      parameter.isScoped = isScoped) :
    Outcome.Ensures (holds isScoped) contract.Reported (bound.query name) :=
  keeps_demand name (keeps.query? literals scoping)

end Keeps

end Bound

end Reshape
