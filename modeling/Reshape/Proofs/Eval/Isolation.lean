import Reshape.Proofs.Eval.Frame

/-!
Isolation: an expression that calls isolated functions only gives one outcome, which depends neither
on the memory nor on anything that twins of its context differ in, and changes no memory. Twins are
contexts that differ in their surroundings and in the other messages of their batches only. A query
that reads neither gives the same evaluation in both, errors included, and so does what is built of
such queries.
-/

namespace Reshape

/-- Two batches are of the same length and have the same message at a position. -/
structure Batch.Twin (index : Nat) (batch batch' : Batch) : Prop where
  length : batch.length = batch'.length
  message : batch[index]? = batch'[index]?

/-- Two contexts differ in nothing but their surroundings and the other messages of their batches. -/
structure Context.Twin (context context' : Context) : Prop where
  value : context.value = context'.value
  outer : context.outer = context'.outer
  names : context.names = context'.names
  root : context.root = context'.root
  locals : context.locals = context'.locals
  metadata : context.metadata = context'.metadata
  index : context.index = context'.index
  batch : Option.Rel (Batch.Twin context.index) context.batch context'.batch

namespace Context.Twin

variable {context context' : Context}

/-- Twins stay twins where another value becomes current. -/
theorem narrow (twin : Twin context context') (value : Value) :
    Twin (context.narrow value) (context'.narrow value) := by
  have outer : context.value :: context.outer = context'.value :: context'.outer := by
    rw [twin.value, twin.outer]
  exact { twin with value := rfl, outer := outer }

/-- Twins stay twins where a value gets a name. -/
theorem bind (twin : Twin context context') (name : String) (value : Value) :
    Twin (context.bind name value) (context'.bind name value) := by
  have names : (name, value) :: context.names = (name, value) :: context'.names := by
    rw [twin.names]
  unfold Context.bind
  rw [← twin.outer]
  -- The value before the last narrowing becomes current again, if there is one.
  cases outer : context.outer with
  | nil => exact { twin with outer := rfl, names := names }
  | cons before rest => exact { twin with value := rfl, outer := rfl, names := names }

end Context.Twin

/-- A query gives the same evaluation in twins. -/
def Query.Blind (query : Query) : Prop :=
  ∀ ⦃context context' : Context⦄, context.Twin context' → query.run context = query.run context'

variable {context context' : Context}

namespace Query.Blind

/-- A constant is blind. -/
theorem constant (value : Value) : (Query.constant value).Blind := fun _ _ _ => rfl

section Parts

variable {query left right : Query} (twin : context.Twin context')
include twin

/-- A blind query is read alike in twins. -/
theorem read (blind : query.Blind) : query.read context = query.read context' := by
  unfold Query.read
  rw [blind twin]

/-- A blind query gives the same truth value in twins. -/
theorem truth (blind : query.Blind) : query.truth context = query.truth context' := by
  unfold Query.truth
  rw [blind.read twin]

/-- A blind query gives the same key in twins. -/
theorem key (blind : query.Blind) : query.key context = query.key context' := by
  unfold Query.key
  rw [blind.read twin]

/-- The sign of what a blind query gives is turned alike in twins. -/
theorem negate (blind : query.Blind) :
    Query.negate query context = Query.negate query context' := by
  unfold Query.negate
  rw [blind.read twin]

/-- Blind items are the same in twins. -/
theorem items {queries : List Query} (blind : ∀ query ∈ queries, query.Blind) :
    Query.items context queries = Query.items context' queries := by
  -- The first item is read alike, and the others follow.
  induction queries with
  | nil => rfl
  | cons query rest ih =>
    rw [List.forall_mem_cons] at blind
    have first : query.read context = query.read context' := blind.1.read twin
    rw [Query.items, Query.items, first, ih blind.2]

/-- Blind keys and values make the same fields in twins. -/
theorem fields {queries : List (Query × Query)}
    (blind : ∀ pair ∈ queries, pair.1.Blind ∧ pair.2.Blind) (done : Fields Value) :
    Query.fields context done queries = Query.fields context' done queries := by
  -- The fields that are done go along.
  induction queries generalizing done with
  | nil => rfl
  | cons pair rest ih =>
    rw [List.forall_mem_cons] at blind
    have name : pair.1.key context = pair.1.key context' := blind.1.1.key twin
    have value : pair.2.read context = pair.2.read context' := blind.1.2.read twin
    have later (done : Fields Value) := ih blind.2 done
    simp only [Query.fields, name, value, later]

/-- An operator gives the same on blind operands in twins. -/
theorem binary (operator : Operator) (first : left.Blind) (second : right.Blind) :
    Query.binary operator left right context = Query.binary operator left right context' := by
  have truths : left.truth context = left.truth context' ∧
      right.truth context = right.truth context' := ⟨first.truth twin, second.truth twin⟩
  have values : left.read context = left.read context' ∧
      right.read context = right.read context' := ⟨first.read twin, second.read twin⟩
  -- Two operators ask for truth values, and any other one for values.
  cases operator with
  | and => simp only [Query.binary, truths.1, truths.2]
  | or => simp only [Query.binary, truths.1, truths.2]
  | _ => simp only [Query.binary, values.1, values.2]

/-- Blind alternatives give the same in twins. -/
theorem coalesce (first : left.Blind) (second : right.Blind) :
    Query.coalesce left right context = Query.coalesce left right context' := by
  have last : right.read context = right.read context' := second.read twin
  unfold Query.coalesce
  rw [first twin, last]

/-- Blind branches give the same in twins. -/
theorem branches {otherwise : Option Query} {tests : List (Query × Query)}
    (last : ∀ body ∈ otherwise, body.Blind)
    (blind : ∀ pair ∈ tests, pair.1.Blind ∧ pair.2.Blind) :
    Query.branches otherwise context tests = Query.branches otherwise context' tests := by
  -- The same branch is taken in both, and behind all of them the same last one.
  induction tests with
  | nil =>
    cases otherwise with
    | none => rfl
    | some body => exact (last body rfl).read twin
  | cons pair rest ih =>
    rw [List.forall_mem_cons] at blind
    have condition : pair.1.truth context = pair.1.truth context' := blind.1.1.truth twin
    have body : pair.2.read context = pair.2.read context' := blind.1.2.read twin
    simp only [Query.branches, condition, body, ih blind.2]

/-- A case with a blind test applies in both twins or in none. -/
theorem applies {case : Case Query} (blind : ∀ test, case = .query test → test.Blind) :
    Query.applies context case = Query.applies context' case := by
  -- Twins have the same current value to be compared.
  cases case with
  | wildcard => rfl
  | equals value => simp only [Query.applies, twin.value]
  | query test =>
    have given : test.read context = test.read context' := (blind test rfl).read twin
    simp only [Query.applies, given, twin.value]

/-- Blind cases give the same in twins. -/
theorem cases {rules : List (Case Query × Query)}
    (blind : ∀ rule ∈ rules, (∀ test, rule.1 = .query test → test.Blind) ∧ rule.2.Blind) :
    Query.cases context rules = Query.cases context' rules := by
  -- The first case that applies is the same in both.
  induction rules with
  | nil => rfl
  | cons rule rest ih =>
    rw [List.forall_mem_cons] at blind
    have applied : Query.applies context rule.1 = Query.applies context' rule.1 :=
      applies twin blind.1.1
    have body : rule.2.read context = rule.2.read context' := blind.1.2.read twin
    simp only [Query.cases, applied, body, ih blind.2]

/-- A lambda with a blind body gives the same in twins. -/
theorem lambda {body : Query} (blind : body.Blind) (name : String) :
    Query.lambda name body context = Query.lambda name body context' := by
  unfold Query.lambda
  rw [← twin.value]
  -- The same current value gets the name, if there is one.
  cases context.value with
  | none => rfl
  | some value => exact blind.read (twin.bind name value)

end Parts

end Query.Blind

section Arguments

/-! Arguments are resolved alike by evaluations that are equal where they are run. -/

variable {ε : Type} {run run' : ε → Eval Value}

/-- A slot is resolved alike by evaluations that are equal on its expression. -/
theorem Slot.resolve_congr {slot : Slot ε} (each : slot.Each fun expr => run expr = run' expr)
    (parameter : Option Parameter) : slot.resolve run parameter = slot.resolve run' parameter := by
  -- Only an expression that has its value at the call is run.
  cases slot with
  | dynamic expr =>
    have same : run expr = run' expr := each
    simp only [Slot.resolve, same]
  | _ => rfl

/-- Evaluations that are equal on each item are equal on all of them. -/
theorem Eval.mapM_congr {α β : Type} {f g : α → Eval β} {items : List α}
    (same : ∀ item ∈ items, f item = g item) : items.mapM f = items.mapM g := by
  induction items with
  | nil => rfl
  | cons item rest ih =>
    rw [List.forall_mem_cons] at same
    rw [List.mapM_cons, List.mapM_cons, same.1, ih same.2]

/-- Arguments are resolved alike by evaluations that are equal on the expressions in them. -/
theorem Bound.resolve_congr {bound : Bound ε}
    (each : bound.Each fun expr => run expr = run' expr) : bound.resolve run = bound.resolve run' := by
  -- Declared slots and collected ones are resolved one after the other.
  have declared : (bound.parameters.zip bound.slots).mapM
      (fun pair => pair.2.resolve run (some pair.1)) =
        (bound.parameters.zip bound.slots).mapM fun pair => pair.2.resolve run' (some pair.1) :=
    Eval.mapM_congr fun pair member =>
      Slot.resolve_congr (each.slots pair.1 pair.2 member) (some pair.1)
  have collected : bound.extra.mapM (Slot.resolve run none) =
      bound.extra.mapM (Slot.resolve run' none) :=
    Eval.mapM_congr fun slot member => Slot.resolve_congr (each.extra slot member) none
  unfold Bound.resolve
  rw [declared, collected]

/-- What follows from a property of the expressions in arguments is a property of them, too. -/
theorem Bound.Each.mono {property weaker : ε → Prop} {bound : Bound ε}
    (each : bound.Each property) (weaken : ∀ expr, property expr → weaker expr) :
    bound.Each weaker := by
  -- Only a query or an expression with its value at the call holds anything.
  have own {slot : Slot ε} (holds : slot.Each property) : slot.Each weaker := by
    cases slot with
    | query expr => exact weaken expr holds
    | dynamic expr => exact weaken expr holds
    | _ => trivial
  exact ⟨fun parameter slot member => own (each.slots parameter slot member),
    fun slot member => own (each.extra slot member)⟩

end Arguments

/-- Every evaluation keeps what is true of any memory. -/
theorem Eval.obeys_true {α : Type} (action : Eval α) :
    Eval.Obeys (.keeping fun _ => True) action := by
  intro memory _
  -- A discipline says nothing about what an error says.
  refine ⟨?_, trivial⟩
  cases (action.outcome memory).1 with
  | ok value => exact .value trivial
  | error error => exact .failure trivial

/-- What follows an evaluation matters only for the values that it may give. -/
theorem Eval.bind_congr_of_holds {α β : Type} {values : α → Prop} {action : Eval α}
    {next next' : α → Eval β} (holds : (Discipline.keeping fun _ => True).Holds values action)
    (same : ∀ a, values a → next a = next' a) : action >>= next = action >>= next' := by
  funext memory
  have ensures := (holds memory trivial).1
  change Eval.outcome (action >>= next) memory = Eval.outcome (action >>= next') memory
  rw [Eval.outcome_bind, Eval.outcome_bind]
  generalize action.outcome memory = ended at ensures ⊢
  obtain ⟨outcome, after⟩ := ended
  -- After an error nothing follows.
  cases ensures with
  | value given => exact congrArg (fun action => Eval.outcome action after) (same _ given)
  | failure => rfl

namespace MethodCall

variable {query : Query} (twin : context.Twin context')
include twin

/-- A blind query gives the same for each element in twins. -/
theorem element_eq (blind : query.Blind) : element query context = element query context' := by
  funext value
  exact blind.read (twin.narrow value)

/-- A blind test accepts the same elements in twins. -/
theorem accepts_eq (blind : query.Blind) : accepts query context = accepts query context' := by
  unfold accepts
  rw [element_eq twin blind]

/-- A blind query gives each item the same key in twins. -/
theorem keyed_eq (blind : query.Blind) : keyed query context = keyed query context' := by
  funext item
  unfold keyed
  rw [element_eq twin blind]

/-- A call of a method with blind queries gives the same in twins. -/
theorem run_eq {call : MethodCall Query}
    (alike : MethodCall.Alike (fun _ query _ => query.Blind) call call)
    (target : Except Error Value) : call.run target context = call.run target context' := by
  -- A query is run on the elements of the target, except for a fallback.
  cases alike with
  | plain operation => cases target <;> rfl
  | fallback isForNull blind =>
    have given := blind.read twin
    cases target <;> simp only [MethodCall.run, given]
  | mapEach blind => cases target <;> simp only [MethodCall.run, element_eq twin blind]
  | filter blind => cases target <;> simp only [MethodCall.run, accepts_eq twin blind]
  | any blind => cases target <;> simp only [MethodCall.run, accepts_eq twin blind]
  | all blind => cases target <;> simp only [MethodCall.run, accepts_eq twin blind]
  | fold initial blind => cases target <;> simp only [MethodCall.run, element_eq twin blind]
  | sort blind => cases target <;> simp only [MethodCall.run, accepts_eq twin blind]
  | sortBy blind => cases target <;> simp only [MethodCall.run, keyed_eq twin blind]

end MethodCall

/-- A method gives the same in twins if its target and its arguments are blind. -/
theorem Query.Blind.method (twin : context.Twin context') {target : Query} (blind : target.Blind)
    (method : Method) {slots : List (Slot Query)}
    (each : (method.signature.attach slots).Each Query.Blind) :
    Query.method target method slots context = Query.method target method slots context' := by
  have resolved : (method.signature.attach slots).resolve (fun query => query.read context) =
      (method.signature.attach slots).resolve fun query => query.read context' :=
    Bound.resolve_congr (each.mono fun query blind => blind.read twin)
  unfold Query.method
  rw [blind.read twin, resolved]
  refine congrArg _ (congrArg _ (funext fun outcome => ?_))
  -- The arguments hold no other queries when they are resolved, and so neither does the call.
  refine Eval.bind_congr_of_holds
    (each.resolve fun query _ => Eval.obeys_true (query.read context')) ?_
  rintro bound ⟨alike, parameters⟩
  have declared : bound.parameters = method.signature.parameters := by
    rw [parameters, Signature.attach_parameters _ _ method.parameters_of_isVariadic]
  have prepared := method.prepare_alike alike (fun _ value => .constant value) declared
  cases made : method.prepare bound with
  | error error => rfl
  | ok call =>
    have same := MethodCall.run_eq twin (prepared.related_of_ok made made) outcome
    simpa only [Eval.ofExcept, pure_bind] using same

/-- A function gives the same in twins if its arguments are blind and the calls that come of them
give the same. -/
theorem Query.Blind.function (twin : context.Twin context') {site : Site} {function : Function}
    {slots : List (Slot Query)} (each : (function.signature.attach slots).Each Query.Blind)
    (runs : ∀ call : FunctionCall Query, function.Makes call →
      call.run site context = call.run site context') :
    Query.function site function slots context = Query.function site function slots context' := by
  have resolved : (function.signature.attach slots).resolve (fun query => query.read context) =
      (function.signature.attach slots).resolve fun query => query.read context' :=
    Bound.resolve_congr (each.mono fun query blind => blind.read twin)
  unfold Query.function
  rw [resolved]
  refine congrArg _ (funext fun bound => ?_)
  -- A call that cannot be made fails alike in both.
  cases made : function.prepare bound with
  | error error => rfl
  | ok call =>
    have same := runs call (Function.makes_of_prepare made)
    simpa only [Eval.ofExcept, pure_bind] using same

/-- A function reads nothing but its arguments, the context and its own message in the batch. -/
def Function.isIsolated : Function → Bool
  | .env | .now | .timestampUnix | .uuid | .counter | .randomInt | .count => false
  | _ => true

variable {function : Function} {call : FunctionCall Query}

/-- What is read of the message at a position is the same in batches that are twins there. -/
theorem Batch.Twin.reads {index : Nat} {batch batch' : Batch} (twin : Batch.Twin index batch batch') :
    batch.raw? index = batch'.raw? index ∧ batch.value index = batch'.value index ∧
      (∀ key, batch.metadata? index key = batch'.metadata? index key) ∧
        batch.allMetadata? index = batch'.allMetadata? index ∧
          batch.trace? index = batch'.trace? index := by
  unfold raw? value metadata? allMetadata? trace?
  -- Only the message itself is looked at, and the length if there is none.
  rw [twin.message, twin.length]
  exact ⟨rfl, rfl, fun _ => rfl, rfl, rfl⟩

/-- The call of an isolated function gives the same in twins. -/
theorem Function.Makes.run_eq (makes : function.Makes call) (isolated : function.isIsolated = true)
    (twin : context.Twin context') (site : Site) : call.run site context = call.run site context' := by
  have locals := twin.locals
  have metadata := twin.metadata
  have position := twin.index
  have batches := twin.batch
  -- The position is the same, and so is the message there, if there is a batch.
  generalize given : context.batch = batch at batches
  generalize given' : context'.batch = batch' at batches
  cases makes with
  | var name => simp only [FunctionCall.run, locals]
  | working key => simp only [FunctionCall.run, Query.metadata, metadata]
  | batchIndex => simp only [FunctionCall.run, ← position]
  | incoming key =>
    cases batches with
    | none => cases key <;> simp only [FunctionCall.run, given, given', Option.bind_none]
    | some same =>
      obtain ⟨_, _, keyed, all, _⟩ := same.reads
      cases key <;>
        simp only [FunctionCall.run, given, given', ← position, Option.bind_some, keyed, all]
  | content | json | batchSize | tracingId | tracingSpan =>
    simp only [FunctionCall.run, Eval.message, Eval.trace?, given, given', ← position]
    cases batches with
    | none => rfl
    | some same =>
      obtain ⟨raw, value, _, _, trace⟩ := same.reads
      simp only [raw, value, trace, same.length, Option.bind_eq_bind, Option.bind_some,
        Option.map_some, pure_bind]
  | env | now | timestampUnix | uuid | counter | randomInt | count => cases isolated
  | _ => rfl

/-- The discipline to give one outcome, whatever the memory, and to leave the memory as it is. -/
def Discipline.detached : Discipline where
  Holds values action :=
    ∃ outcome, action = Eval.ofExcept outcome ∧ Outcome.Ensures values (fun _ => True) outcome
  pure {_ _ a} holds := ⟨.ok a, rfl, .value holds⟩
  bind := by
    rintro α β values results _ next ⟨outcome, rfl, ensures⟩ follows
    -- What follows is asked for the value, if there is one.
    cases ensures with
    | value holds => exact follows _ holds
    | @failure error => exact ⟨.error error, rfl, .failure trivial⟩
  failure error := ⟨.error error, rfl, .failure trivial⟩
  adapt := by
    rintro α values _ change ⟨outcome, rfl, ensures⟩
    refine ⟨outcome.mapError change, ?_, ensures.mapError fun _ _ => trivial⟩
    cases outcome <;> rfl
  attempt := by
    rintro α _ ⟨outcome, rfl, _⟩
    refine ⟨.ok outcome, ?_, .value trivial⟩
    cases outcome <;> rfl

/-- What obeys gives one outcome from every memory and leaves the memory as it is. -/
theorem Eval.Obeys.outcome_detached {α : Type} {action : Eval α}
    (obeys : Eval.Obeys .detached action) :
    ∃ result, ∀ memory, action.outcome memory = (result, memory) := by
  obtain ⟨outcome, rfl, _⟩ := obeys
  refine ⟨outcome, fun memory => ?_⟩
  cases outcome <;> rfl

/-- The call of an isolated function does not look at the memory. -/
theorem Function.Makes.detached (makes : function.Makes call)
    (isolated : function.isIsolated = true) (site : Site) (context : Context) :
    Eval.Obeys .detached (call.run site context) := by
  -- Functions that keep or draw something are not isolated.
  cases makes with
  | env | now | timestampUnix | uuid | counter | randomInt | count => cases isolated
  | _ => exact FunctionCall.obeys_of_stateless rfl site context

namespace Expr

/-- An expression that calls isolated functions only does not look at the memory. -/
theorem detached_of_calls (expr : Expr)
    (isolated : ∀ function, expr.Calls function → function.isIsolated = true) (site : Site) :
    Query.Obeys .detached (expr.denote site) := by
  -- What a call does is the same at every site.
  refine @obeys_of_calls _ (fun _ => True) (fun _ _ _ => trivial) expr ?_ site trivial
  intro function calls call makes _ site _ context
  exact makes.detached (isolated function calls) site context

/-- An expression that calls isolated functions only gives the same in twins. -/
theorem blind_of_calls (expr : Expr)
    (isolated : ∀ function, expr.Calls function → function.isIsolated = true) (site : Site) :
    (expr.denote site).Blind := by
  induction expr using induction_parts generalizing site with
  | step whole ih =>
    -- The parts are blind by induction, as the functions that they call are those of the whole.
    have part (manner : Manner) (inner : Expr) (member : (manner, inner) ∈ whole.parts)
        (position : Nat) : (inner.denote (position :: site)).Blind :=
      ih manner inner member (fun function calls => isolated function (.part member calls)) _
    have here (inner : Expr) (member : (Manner.here, inner) ∈ whole.parts) (position : Nat) :
        (inner.denote (position :: site)).Blind := part .here inner member position
    intro context context' twin
    cases whole with
    | literal value => rfl
    | field scope path =>
      -- A path starts from the current value, from the root or from a name.
      cases scope <;> simp only [denote, Query.field, Context.get, Context.named?, twin.value,
        twin.root, twin.names]
    | «variable» name path => simp only [denote, Query.variableAt, twin.locals]
    | metadata key => simp only [denote, Query.metadata, twin.metadata]
    | get target segment =>
      have same := (here target (.head _) 0).read twin
      simp only [denote, same]
    | array items =>
      have each := forall_denoteAll (fun item member => here item (List.mem_map_of_mem member)) 0
      simp only [denote, Query.Blind.items twin each]
    | object entries =>
      have each := forall_denotePairs here 0
      simp only [denote, Query.Blind.fields twin each]
    | binary operator left right =>
      exact Query.Blind.binary twin operator (here left (by simp [parts]) 0)
        (here right (by simp [parts]) 1)
    | coalesce left right =>
      exact Query.Blind.coalesce twin (here left (by simp [parts]) 0)
        (here right (by simp [parts]) 1)
    | not inner =>
      have same := (here inner (.head _) 0).truth twin
      simp only [denote, same]
    | negate inner => exact (here inner (.head _) 0).negate twin
    | branches tests otherwise =>
      have each := forall_denotePairs
        (fun inner member => here inner (List.mem_append_left _ member)) 1
      refine Query.Blind.branches twin (fun body given => ?_) each
      cases otherwise with
      | none => cases given
      | some last =>
        obtain rfl := Option.some.inj given
        exact here last (by simp [parts]) 0
    | cases subject rules =>
      cases subject with
      | none => exact Query.Blind.cases twin (forall_denoteCases here 1)
      | some subject =>
        have each := forall_denoteCases
          (fun inner member => part .narrowed inner (List.mem_cons_of_mem _ member)) 1
        have same := (here subject (by simp [parts]) 0).read twin
        -- The value of the subject is current in the rules.
        have narrowed (value : Value) := Query.Blind.cases (twin.narrow value) each
        simp only [denote, denoteOption, same, narrowed]
    | lambda name body => exact (part (.bound name) body (.head _) 0).lambda twin name
    | call function slots =>
      refine Query.Blind.function twin (Signature.each_denote part 0) ?_
      exact fun call makes => makes.run_eq (isolated function (.here function slots)) twin site
    | method target called slots =>
      refine (here target (.head _) 0).method twin called (Signature.each_denote ?_ 1)
      exact fun manner inner member => part manner inner (List.mem_cons_of_mem _ member)

end Expr

end Reshape
