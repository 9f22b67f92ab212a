import Reshape.Eval.Call
import Reshape.Proofs.Builtin.Prepared
import Reshape.Proofs.Eval.Agreement
import Reshape.Proofs.Eval.Query

/-!
Agreement of calls: functions and methods agree if their arguments correspond and the queries among
them agree where the calls run them. What a call with memory does first depends on what is in its
cell: a counter finds its tally there, and a generator of random integers its state, or the value
that this is to be made of.
-/

namespace Reshape

/-- The seed that a value is, if it is an integer of 64 bits with or without a sign. -/
def Value.seed? (value : Value) : Option UInt64 :=
  (value.toInt64?.map Int64.toUInt64).or value.toUInt64?

namespace Eval

variable {α : Type} {site : Site} {context : Context} {memory : Memory}

/-- What follows a look at the memory starts from the same memory. -/
theorem outcome_get (next : Memory → Eval α) (memory : Memory) :
    Eval.outcome (get >>= next) memory = (next memory).outcome memory := rfl

/-- A tally that was kept is found. -/
theorem outcome_tally_of_kept {least greatest : Query} {tally : Tally}
    (kept : memory.cell? site = some (.tally tally)) :
    (Eval.tally site least greatest context).outcome memory = (.ok tally, memory) := by
  unfold Eval.tally
  rw [outcome_get, kept]
  rfl

/-- The generator of the value of a seed, if it is an integer. -/
def sown (value : Value) : Eval Generator :=
  match value.seed? with
  | some seed => return .seeded seed
  | none => fail (.expected "integer seed" value)

/-- Making a generator changes nothing. -/
theorem outcome_sown (value : Value) (memory : Memory) :
    ((sown value).outcome memory).2 = memory := by
  unfold sown
  split <;> rfl

/-- What finding a generator depends on is in the cell. -/
theorem outcome_generator {seed : Query} :
    (generator site seed context).outcome memory =
      outcome (match memory.cell? site with
        | some (.generator state) => return state
        | some (.seed value) => sown value
        | _ => do
          let value ← seed.read context
          keep site (.seed value)
          sown value) memory := by
  unfold generator
  rw [outcome_get]
  -- A seed that was kept is not read again.
  rcases memory.cell? site with _ | tally | value | state
  · simp only [pure_bind]
    rfl
  · simp only [pure_bind]
    rfl
  · rfl
  · rfl

end Eval

variable {memories : Memory → Memory → Prop} {context context' : Context}

/-- Two queries agree where a call runs them: on any value that narrows the contexts, or in the
contexts themselves. -/
def Query.AgreeOn (memories : Memory → Memory → Prop) (context context' : Context) :
    Bool → Query → Query → Prop
  | true, query, query' =>
    ∀ value, Query.Agree memories (context.narrow value) (context'.narrow value) query query'
  | false, query, query' => Query.Agree memories context context' query query'

/-- A constant agrees with itself. -/
theorem Query.AgreeOn.literal (isScoped : Bool) (value : Value) :
    Query.AgreeOn memories context context' isScoped (Bindable.ofLiteral value)
      (Bindable.ofLiteral value) := by
  cases isScoped with
  | true => exact fun _ => Eval.Agree.pure rfl
  | false => exact Eval.Agree.pure rfl

/-- A parameter of a counter is read alike from queries that agree. -/
theorem Query.Agree.integer (name : String) {query query' : Query}
    (agree : Query.Agree memories context context' query query') :
    Eval.Agree memories Eq (query.integer name context) (query'.integer name context') := by
  refine agree.read.andThen fun value => ?_
  -- Both sides fail at the same value unless it is an integer.
  cases value.toInt64? with
  | some result => exact .pure rfl
  | none => exact .failure _ _

/-- Two sites are linked in related memories: calls at them find the same, and the memories stay
related where both keep the same, or draw the same from what is shared. -/
structure Memory.Linked (memories : Memory → Memory → Prop) (site site' : Site) : Prop where
  cell {memory memory' : Memory} (related : memories memory memory') :
    memory.cell? site = memory'.cell? site'
  keep {memory memory' : Memory} (related : memories memory memory') (cell : Cell) :
    memories (memory.keep site cell) (memory'.keep site' cell)
  shared {memory memory' : Memory} (related : memories memory memory') :
    memory.shared = memory'.shared
  draw {memory memory' : Memory} (related : memories memory memory') (shared : Shared) :
    memories { memory with shared } { memory' with shared }

/-- A site is linked with itself in equal memories. -/
theorem Memory.Linked.refl (site : Site) : Memory.Linked Eq site site where
  cell related := congrArg (Memory.cell? · site) related
  keep related cell := congrArg (Memory.keep · site cell) related
  shared related := congrArg Memory.shared related
  draw related shared := congrArg (fun memory : Memory => { memory with shared }) related

section Stateful

/-! Functions with memory agree at sites that are linked. -/

variable {site site' : Site}

/-- What follows a look at the memory agrees if it does for all memories with the same cell. -/
theorem Eval.get_agree {α β : Type} {values : α → β → Prop}
    (linked : Memory.Linked memories site site') {next : Memory → Eval α}
    {next' : Memory → Eval β}
    (follows : ∀ memory memory', memory.cell? site = memory'.cell? site' →
      Eval.Agree memories values (next memory) (next' memory')) :
    Eval.Agree memories values (get >>= next) (get >>= next') :=
  fun before before' start => follows before before' (linked.cell start) start

/-- Calls at linked sites keep the same. -/
theorem Eval.keep_agree (linked : Memory.Linked memories site site') (cell : Cell) :
    Eval.Agree memories Eq (keep site cell) (keep site' cell) :=
  fun _ _ start => ⟨.value rfl, linked.keep start cell⟩

/-- The same is drawn from what is shared. -/
theorem Eval.draw_agree {α : Type} (linked : Memory.Linked memories site site')
    (step : Shared → α × Shared) : Eval.Agree memories Eq (draw step) (draw step) := by
  intro memory memory' start
  change Outcome.Agree Eq (Except.ok (step memory.shared).1) (Except.ok (step memory'.shared).1) ∧
    memories { memory with shared := (step memory.shared).2 }
      { memory' with shared := (step memory'.shared).2 }
  -- Linked memories share the state that is drawn from.
  rw [linked.shared start]
  exact ⟨.value rfl, linked.draw start _⟩

/-- Counters whose bounds agree start alike. -/
theorem Eval.tally_agree (linked : Memory.Linked memories site site')
    {least least' greatest greatest' : Query}
    (first : Query.Agree memories context context' least least')
    (second : Query.Agree memories context context' greatest greatest') :
    Eval.Agree memories Eq (Eval.tally site least greatest context)
      (Eval.tally site' least' greatest' context') := by
  refine get_agree linked fun memory memory' same => ?_
  -- Without a counter at the site its bounds are read, in this order.
  have fresh : Eval.Agree memories Eq
      (do
        let least ← least.integer "min" context
        let greatest ← greatest.integer "max" context
        let tally ← ofExcept ((Tally.between least greatest).mapError Error.arguments)
        keep site (.tally tally)
        return tally)
      (do
        let least ← least'.integer "min" context'
        let greatest ← greatest'.integer "max" context'
        let tally ← ofExcept ((Tally.between least greatest).mapError Error.arguments)
        keep site' (.tally tally)
        return tally) := by
    refine (first.integer "min").andThen fun low => ?_
    refine (second.integer "max").andThen fun high => ?_
    refine (Agree.ofExcept (.refl _)).andThen fun tally => ?_
    exact (keep_agree linked _).andThen fun _ => .pure rfl
  -- What is kept at the site is the same on both sides, and only a counter is used again.
  rw [same]
  rcases memory'.cell? site' with _ | tally | value | state
  · exact fresh
  · exact .pure rfl
  · exact fresh
  · exact fresh

/-- Counters count alike. -/
theorem Eval.count_agree (linked : Memory.Linked memories site site') (tally : Tally) :
    Eval.Agree memories Eq (Eval.count site tally) (Eval.count site' tally) :=
  (keep_agree linked _).andThen fun _ => .pure rfl

/-- Counters whose bounds and overrides agree count alike. -/
theorem Eval.counter_agree (linked : Memory.Linked memories site site')
    {least least' greatest greatest' : Query} {override override' : Option Query}
    (first : Query.Agree memories context context' least least')
    (second : Query.Agree memories context context' greatest greatest')
    (third : Option.Rel (Query.Agree memories context context') override override') :
    Eval.Agree memories Eq (Eval.counter site least greatest override context)
      (Eval.counter site' least' greatest' override' context') := by
  refine (tally_agree linked first second).andThen fun tally => ?_
  cases third with
  | none => exact count_agree linked tally
  | some agree =>
    refine agree.read.andThen fun value => ?_
    -- An override counts on, starts over, asks for the current value or gives another one.
    split
    · exact .pure rfl
    · exact count_agree linked _
    · exact count_agree linked _
    · split
      · exact (keep_agree linked _).andThen fun _ => .pure rfl
      · exact .failure _ _

/-- Generators whose seeds agree are the same. -/
theorem Eval.generator_agree (linked : Memory.Linked memories site site') {seed seed' : Query}
    (agree : Query.Agree memories context context' seed seed') :
    Eval.Agree memories Eq (Eval.generator site seed context)
      (Eval.generator site' seed' context') := by
  have sown (value : Value) : Eval.Agree memories Eq (sown value) (sown value) := by
    unfold sown
    split
    · exact .pure rfl
    · exact .failure _ _
  have read := agree.read.andThen fun value =>
    (keep_agree linked (.seed value)).andThen fun _ => sown value
  intro before before' start
  rw [outcome_generator, outcome_generator, linked.cell start]
  -- The seed is read unless the call has kept one, and nothing else depends on the contexts.
  rcases before'.cell? site' with _ | tally | value | state
  · exact read start
  · exact read start
  · exact sown value start
  · exact Agree.pure rfl start

end Stateful

/-- Corresponding calls of functions agree in a context at linked sites. -/
theorem FunctionCall.Alike.run_linked {site site' : Site}
    (linked : Memory.Linked memories site site') {call call' : FunctionCall Query}
    (alike : FunctionCall.Alike (Query.Agree memories context context) call call') :
    Eval.Agree memories Eq (call.run site context) (call'.run site' context) := by
  have message : Eval.Agree memories Eq (Eval.message context) (Eval.message context) := by
    unfold Eval.message
    split
    · exact .pure rfl
    · exact .failure _ _
  -- Only counters and random numbers read expressions; any other call is the same call.
  cases alike with
  | counter first second third => exact Eval.counter_agree linked first second third
  | random first least greatest =>
    refine (Eval.generator_agree linked first).andThen fun state => ?_
    exact (Eval.keep_agree linked _).andThen fun _ => .pure rfl
  | count | identifier => exact (Eval.draw_agree linked _).apply _
  | content =>
    refine message.andThen fun batch => ?_
    split
    · exact .pure rfl
    · exact .failure _ _
  | json path =>
    refine message.andThen fun batch => ?_
    exact (Eval.Agree.ofExcept (.refl _)).apply _
  | incoming key => cases key <;> exact .pure rfl
  | throw message => exact .failure _ _
  | failing failure => exact .failure _ _
  | _ => exact .pure rfl

/-- Corresponding calls of functions agree in a context from equal memories. -/
theorem FunctionCall.Alike.run {site : Site} {call call' : FunctionCall Query}
    (alike : FunctionCall.Alike (Query.Agree Eq context context) call call') :
    Eval.Agree Eq Eq (call.run site context) (call'.run site context) :=
  alike.run_linked (.refl site)

/-- Corresponding calls of methods agree on outcomes of the target that agree. -/
theorem MethodCall.Alike.run {call call' : MethodCall Query} {target target' : Except Error Value}
    (alike : MethodCall.Alike (Query.AgreeOn memories context context') call call')
    (same : Outcome.Agree Eq target target') :
    Eval.Agree memories Eq (call.run target context) (call'.run target' context') := by
  have element {query query' : Query}
      (agree : Query.AgreeOn memories context context' true query query') (value : Value) :
      Eval.Agree memories Eq (MethodCall.element query context value)
        (MethodCall.element query' context' value) := (agree value).read
  have accepts {query query' : Query}
      (agree : Query.AgreeOn memories context context' true query query') (value : Value) :
      Eval.Agree memories Eq (MethodCall.accepts query context value)
        (MethodCall.accepts query' context' value) :=
    Collection.predicate_agree _ _ (element agree) value
  -- Only a fallback is asked for where the target has failed.
  cases same with
  | failure error error' =>
    cases alike with
    | fallback isForNull agree => exact Query.Agree.read agree
    | _ => exact .failure _ _
  | @value value _ same =>
    obtain rfl := same
    cases alike with
    | plain operation => exact .ofExcept (.refl _)
    | fallback isForNull agree =>
      simp only [MethodCall.run]
      split
      · exact Query.Agree.read agree
      · exact .pure rfl
    | mapEach agree => exact Collection.mapEach_agree (element agree) value
    | filter agree => exact Collection.filter_agree (accepts agree) value
    | any agree =>
      simp only [MethodCall.run, Collection.any_eq_searched]
      exact Collection.searched_agree true (accepts agree) value
    | all agree =>
      simp only [MethodCall.run, Collection.all_eq_searched]
      exact Collection.searched_agree false (accepts agree) value
    | fold initial agree => exact Collection.fold_agree (element agree) initial value
    | sort agree =>
      refine (Eval.Agree.ofExcept (.refl (Collection.items value))).andThen fun items => ?_
      have ordered (a b : Value) := accepts agree (Collection.compared a b)
      exact (Collection.sortItems_agree ordered items).apply _
    | sortBy agree =>
      refine (Eval.Agree.ofExcept (.refl (Collection.items value))).andThen fun items => ?_
      refine (Collection.mapM_agree (fun item => (element agree item).apply _) items).andThen ?_
      exact fun keyed => .ofExcept (.refl _)

/-- Slots of queries that correspond at a call. -/
abbrev Query.Resolves (memories : Memory → Memory → Prop) (context context' : Context)
    (isScoped : Bool) (parameter : Option Parameter) (slot slot' : Slot Query) : Prop :=
  Slot.Resolves memories (Query.AgreeOn memories context context' isScoped)
    (fun query => query.read context) (fun query => query.read context') parameter slot slot'

/-- The slots of two calls correspond when the calls are evaluated. -/
abbrev Signature.Resolves (memories : Memory → Memory → Prop) (context context' : Context)
    (signature : Signature) (slots slots' : List (Slot Query)) : Prop :=
  signature.Related
    (fun parameter =>
      Query.Resolves memories context context' parameter.isScoped (some parameter))
    (Query.Resolves memories context context' false none) slots slots'

/-- Attached slots stand for the parameters of the signature. -/
theorem Signature.attach_parameters {ε : Type} (signature : Signature) (slots : List (Slot ε))
    (plain : signature.isVariadic = true → signature.parameters = []) :
    (signature.attach slots).parameters = signature.parameters := by
  unfold attach
  split
  next variadic => exact (plain variadic).symm
  next => rfl

/-- A function collects no arguments. -/
theorem Function.not_isVariadic (function : Function) :
    function.signature.isVariadic = false := by
  -- This can be read off the signatures.
  cases function <;> rfl

/-- A method that collects arguments declares no parameters. -/
theorem Method.parameters_of_isVariadic (method : Method)
    (variadic : method.signature.isVariadic = true) : method.signature.parameters = [] := by
  -- This can be read off the signatures.
  cases method <;> first | rfl | cases variadic

/-- Functions agree if their arguments correspond and the calls that come of these agree. -/
theorem Query.Agree.function (site site' : Site) (function : Function)
    {slots slots' : List (Slot Query)}
    (agree : function.signature.Resolves memories context context' slots slots')
    (runs : ∀ (bound : Bound Query) call call', function.prepare bound = .ok call →
      FunctionCall.Alike (Query.Agree memories context context') call call' →
        Eval.Agree memories Eq (call.run site context) (call'.run site' context')) :
    Eval.Agree memories Eq (Query.function site function slots context)
      (Query.function site' function slots' context') := by
  refine agree.resolve.bind ?_
  rintro bound bound' ⟨alike, parameters⟩
  -- What the arguments are bound to belongs to the parameters of the function.
  have declared : bound.parameters = function.signature.parameters := by
    rw [parameters, Signature.attach_parameters]
    simp [function.not_isVariadic]
  have prepared := function.prepare_alike alike Query.AgreeOn.literal declared
  generalize made : function.prepare bound = outcome at prepared ⊢
  generalize function.prepare bound' = outcome' at prepared ⊢
  -- Corresponding arguments are faulty on both sides or on none.
  cases prepared with
  | value alike => exact runs bound _ _ made alike
  | failure error error' => exact .failure _ _

/-- Methods agree if their targets do and their arguments correspond. -/
theorem Query.Agree.method {target target' : Query} (method : Method)
    {slots slots' : List (Slot Query)}
    (same : Query.Agree memories context context' target target')
    (agree : method.signature.Resolves memories context context' slots slots') :
    Eval.Agree memories Eq (Query.method target method slots context)
      (Query.method target' method slots' context') := by
  -- The target is evaluated before the arguments, and its failure is kept for the call.
  refine Eval.Agree.adapt _ _ (same.read.attempt.bind fun outcome outcome' reached => ?_)
  refine agree.resolve.bind ?_
  rintro bound bound' ⟨alike, parameters⟩
  have declared : bound.parameters = method.signature.parameters := by
    rw [parameters, Signature.attach_parameters _ _ method.parameters_of_isVariadic]
  have prepared := method.prepare_alike alike Query.AgreeOn.literal declared
  exact (Eval.Agree.ofExcept prepared).bind fun call call' alike => alike.run reached

end Reshape
