import Reshape.Eval.Denote
import Reshape.Proofs.Builtin.Contract
import Reshape.Proofs.Call.Argument
import Reshape.Proofs.Eval.Call
import Reshape.Proofs.Eval.Contract
import Reshape.Proofs.Expr.Part

/-!
Calls keep to every contract that their arguments keep to, as long as the values that they put into
others are data: arguments that are not looked at, the target of a merge, and tallies. What is put
into others unseen is told by what an evaluation comes to: the parts of an expression that are
evaluated, each in the contexts that the values given before it lead to.
-/

namespace Reshape

/-- An expression gives a value in a context, from some memory. -/
def Expr.Gives (context : Context) (expr : Expr) (value : Value) : Prop :=
  ∃ site, ((expr.denote site).read context).Gives value

/-- The arguments of a call are bound in a context, from some memory. -/
def Signature.Binds (context : Context) (signature : Signature) (slots : List (Slot Expr))
    (bound : Bound Query) : Prop :=
  ∃ site position, ((signature.attach (Expr.denoteSlots site position slots)).resolve
    fun (query : Query) => query.read context).Gives bound

/-- The elements that a query is run on: the items of an array or the entries of an object. -/
def Collection.elements : Value → List Value
  | .array items => items
  | .object fields => fields.map fun (name, value) => entry name value
  | _ => []

namespace MethodCall

/-- A fold of items comes to a tally with some of the items left. -/
inductive Tallies (query : Query) (context : Context) (initial : Value) (items : List Value) :
    List Value → Value → Prop where
  | start : Tallies query context initial items items initial
  | next {item : Value} {rest : List Value} {tally result : Value}
      (before : Tallies query context initial items (item :: rest) tally)
      (given : (element query context (Collection.tallied tally item)).Gives result) :
      Tallies query context initial items rest result

/-- A call on a target hands a value to its query. -/
def Hands (context : Context) (target handed : Value) : MethodCall Query → Prop
  | .mapEach _ | .filter _ => handed ∈ Collection.elements target
  | .any _ | .all _ | .sortBy _ => ∃ items, target = .array items ∧ handed ∈ items
  | .sort _ => ∃ items, target = .array items ∧
      ∃ a ∈ items, ∃ b ∈ items, handed = Collection.compared a b
  | .fold initial query => ∃ items, target = .array items ∧
      ∃ item rest tally, Tallies query context initial items (item :: rest) tally ∧
        handed = Collection.tallied tally item
  | .plain _ | .fallback .. => False

end MethodCall

namespace Expr

/-- An expression narrows its context to a value: to the subject of a match, or to what a method
hands to its query. -/
def Narrows (context : Context) (value : Value) : Expr → Prop
  | .cases (some subject) _ => subject.Gives context value
  | .method target called slots => ∃ given bound call, target.Gives context given ∧
      called.signature.Binds context slots bound ∧ called.prepare bound = .ok call ∧
        call.Hands context given value
  | _ => False

/-- A part of an expression in one context is evaluated in another one. -/
def Leads (context at' : Context) (expr : Expr) : Manner → Prop
  | .here => at' = context
  | .narrowed => ∃ value, expr.Narrows context value ∧ at' = context.narrow value
  | .bound name => ∃ value, context.value = some value ∧ at' = context.bind name value

/-- An expression puts a value into another one without a look at it: an argument, the target of a
merge, or the tally of a fold that is not at its end. -/
inductive Stores (context : Context) : Expr → Value → Prop where
  | argument {target : Expr} {called : Method} {slots : List (Slot Expr)} {bound : Bound Query}
      {value : Value} (binds : called.signature.Binds context slots bound)
      (member : value ∈ called.stored bound) : Stores context (.method target called slots) value
  | target {target : Expr} {slots : List (Slot Expr)} {value : Value}
      (gives : target.Gives context value) : Stores context (.method target .merge slots) value
  | tally {target : Expr} {slots : List (Slot Expr)} {tally item : Value}
      (narrows : (method target .fold slots).Narrows context (Collection.tallied tally item)) :
      Stores context (.method target .fold slots) tally

end Expr

/-- While a whole is evaluated in a context, an expression in it is evaluated in another one. -/
inductive Evaluates (whole : Expr) (start : Context) : Expr → Context → Prop where
  | start : Evaluates whole start whole start
  | part {outer inner : Expr} {manner : Manner} {context at' : Context}
      (evaluates : Evaluates whole start outer context) (member : (manner, inner) ∈ outer.parts)
      (leads : outer.Leads context at' manner) : Evaluates whole start inner at'

/-- What is evaluated from a part on is evaluated from the whole on. -/
theorem Evaluates.within {whole part : Expr} {start inner : Context} {manner : Manner}
    (member : (manner, part) ∈ whole.parts) (leads : whole.Leads start inner manner) {expr : Expr}
    {context : Context} (evaluates : Evaluates part inner expr context) :
    Evaluates whole start expr context := by
  -- The part comes first, and what it leads to follows.
  induction evaluates with
  | start => exact .part .start member leads
  | part _ member leads ih => exact .part ih member leads

variable {contract : Contract} {context : Context}

section Arguments

variable {ε : Type} {holds : Bool → ε → Prop}

/-- A slot at a call keeps to a contract. -/
theorem Slot.Readies.resolve {holds : ε → Prop} {run : ε → Eval Value} {slot : Slot ε}
    {parameter : Option Parameter}
    (standard : ∀ declared ∈ parameter, ∀ constant ∈ declared.standard, contract.Result constant)
    (readies : Slot.Readies contract holds (fun expr => Eval.Keeps contract (run expr)) slot) :
    Eval.Ensures (Slot.Keeps contract holds) contract.Reported (slot.resolve run parameter) := by
  -- Only a slot that waits for its value has to be run, and then the value is bound as usual.
  cases readies with
  | ready keeps => cases keeps with
    | absent => exact .pure .absent
    | value result => exact .pure (.value result)
    | query inside => exact .pure (.query inside)
  | dynamic keeps =>
    refine Eval.Ensures.bind keeps fun value result => ?_
    cases parameter with
    | none => exact .pure (.value result)
    | some declared =>
      have slot : Outcome.Ensures (Slot.Keeps contract holds) contract.Reported
          (Slot.ofValue declared value) := Slot.keeps_ofValue (standard declared rfl) result
      dsimp only
      generalize (Slot.ofValue declared value : Except Error (Slot ε)) = outcome at slot ⊢
      cases slot with
      | value keeps => exact .pure keeps
      | failure reported => exact .failure reported

/-- What is related to pairs in order is related to the first parts in order. -/
theorem forall_mem_zip {α β γ : Type} {related : α → γ → Prop} {as : List α} {bs : List β}
    {cs : List γ} (each : List.Forall₂ (fun pair c => related pair.1 c) (as.zip bs) cs) :
    ∀ a c, (a, c) ∈ as.zip cs → related a c := by
  intro a c member
  -- Both lists are walked together, and end with the shorter one.
  induction as generalizing bs cs with
  | nil => cases member
  | cons first rest ih =>
    cases bs with
    | nil =>
      cases each
      cases member
    | cons second others =>
      obtain ⟨head, tail⟩ | ⟨head, tail⟩ := each
      rcases List.mem_cons.1 member with same | later
      · obtain ⟨rfl, rfl⟩ := Prod.mk.inj same
        exact head
      · exact ih tail later

/-- The arguments of a call keep to a contract if they did before, and so do the values that they
get. -/
theorem Bound.Readies.resolve {run : ε → Eval Value} {bound : Bound ε}
    (readies : Bound.Readies contract holds (fun expr => Eval.Keeps contract (run expr)) bound)
    (standard : ∀ parameter ∈ bound.parameters, ∀ constant ∈ parameter.standard,
      contract.Result constant) :
    Eval.Ensures
      (fun resolved => Bound.Keeps contract holds resolved ∧
        resolved.parameters = bound.parameters) contract.Reported (bound.resolve run) := by
  -- The declared slots are resolved first, and those that are collected after them.
  have declared : Eval.Ensures
      (List.Forall₂ (fun pair slot => Slot.Keeps contract (holds pair.1.isScoped) slot)
        (bound.parameters.zip bound.slots)) contract.Reported
      ((bound.parameters.zip bound.slots).mapM fun pair =>
        pair.2.resolve run (some pair.1)) := by
    refine (Assertion.eval contract.Reported).mapM _ fun pair member => ?_
    have own := standard pair.1 (List.of_mem_zip member).1
    exact (readies.slots pair.1 pair.2 member).resolve fun _ same => Option.some.inj same ▸ own
  have collected : Eval.Ensures
      (List.Forall₂ (fun _ slot => Slot.Keeps contract (holds false) slot) bound.extra)
      contract.Reported (bound.extra.mapM (Slot.resolve run none)) := by
    refine (Assertion.eval contract.Reported).mapM _ fun slot member => ?_
    exact (readies.extra slot member).resolve fun _ none => nomatch none
  refine declared.bind fun results each => collected.bind fun others rest => .pure ⟨⟨?_, ?_⟩, rfl⟩
  · exact forall_mem_zip each
  · exact forall₂_left rest.flip

end Arguments

namespace Query.Keeps

variable {query : Query}

/-- A parameter of a counter is read, or what is wrong is reported. -/
theorem integer (name : String) (keeps : Query.Keeps contract context query) :
    Eval.Ensures (fun _ => True) contract.Reported (query.integer name context) := by
  refine keeps.read.bind fun value _ => ?_
  cases value.toInt64? with
  | some result => exact .pure trivial
  | none => exact Eval.keeps_error rfl

end Query.Keeps

namespace Eval

/-- The message of a context that keeps to a contract is found, or its absence is reported. -/
theorem keeps_message (keeps : Context.Keeps contract context) :
    Eval.Ensures (fun batch => ∀ message ∈ batch[context.index]?, Message.Keeps contract message)
      contract.Reported (message context) := by
  unfold message
  cases given : context.batch with
  | some batch => exact .pure (keeps.message batch given)
  | none => exact Eval.keeps_error rfl

/-- What changes the memory and gives nothing fails with nothing. -/
theorem keeps_keep (site : Site) (cell : Cell) :
    Eval.Ensures (fun _ => True) contract.Reported (keep site cell) :=
  fun _ => .value trivial

/-- What is drawn fails with nothing. -/
theorem keeps_draw {α : Type} (step : Shared → α × Shared) :
    Eval.Ensures (fun _ => True) contract.Reported (draw step) :=
  fun _ => .value trivial

/-- A counter that keeps to a contract is found, or what is wrong with its bounds is reported. -/
theorem keeps_tally (site : Site) {least greatest : Query}
    (first : Query.Keeps contract context least) (second : Query.Keeps contract context greatest) :
    Eval.Ensures (fun _ => True) contract.Reported (tally site least greatest context) := by
  -- Bounds that are in the wrong order are reported.
  have checked (low high : Int) : Eval.Ensures (fun _ => True) contract.Reported
      (ofExcept ((Tally.between low high).mapError Error.arguments)) := by
    cases Tally.between low high with
    | ok tally => exact .pure trivial
    | error fault => exact Eval.keeps_error rfl
  -- A tally that is kept at the site is taken as it is; without one the bounds are read first.
  refine Eval.Ensures.memory fun memory => ?_
  split
  · exact .pure trivial
  · refine (first.integer "min").bind fun low _ => (second.integer "max").bind fun high _ => ?_
    refine (checked low high).bind fun tally _ => ?_
    exact (keeps_keep site _).bind fun _ _ => .pure trivial

/-- The next value of a counter keeps to a contract. -/
theorem keeps_count (site : Site) (tally : Tally) : Eval.Keeps contract (count site tally) :=
  (keeps_keep site _).bind fun _ _ => keeps_atom rfl

/-- A counter keeps to a contract. -/
theorem keeps_counter (site : Site) {least greatest : Query} {override : Option Query}
    (first : Query.Keeps contract context least) (second : Query.Keeps contract context greatest)
    (third : ∀ query ∈ override, Query.Keeps contract context query) :
    Eval.Keeps contract (counter site least greatest override context) := by
  refine (keeps_tally site first second).bind fun tally _ => ?_
  cases override with
  | none => exact keeps_count site tally
  | some override =>
    refine (third override rfl).read.bind fun value _ => ?_
    -- An override counts on, starts over, asks for the current value or gives another one.
    split
    · exact keeps_atom rfl
    · exact keeps_count site _
    · exact keeps_count site _
    · split
      · exact (keeps_keep site _).bind fun _ _ => keeps_atom rfl
      · exact Eval.keeps_error rfl

/-- A generator is found, or what is wrong with its seed is reported. -/
theorem keeps_generator (site : Site) {seed : Query} (keeps : Query.Keeps contract context seed) :
    Eval.Ensures (fun _ => True) contract.Reported (generator site seed context) := by
  have seeded (value : Value) : Eval.Ensures (fun _ => True) contract.Reported
      (sown value) := by
    unfold sown
    split
    · exact .pure trivial
    · exact Eval.keeps_error rfl
  refine Eval.Ensures.memory fun memory => ?_
  -- A generator is used again, and so is a seed that was kept before.
  rcases memory.cell? site with _ | tally | value | state
  · exact keeps.read.bind fun value _ => (keeps_keep site _).bind fun _ _ => seeded value
  · exact keeps.read.bind fun value _ => (keeps_keep site _).bind fun _ _ => seeded value
  · exact seeded value
  · exact .pure trivial

end Eval

/-- A call of a function keeps to the contract of its context. -/
theorem FunctionCall.Keeps.run {call : FunctionCall Query} (site : Site)
    (keeps : Context.Keeps contract context)
    (inside : FunctionCall.Keeps contract (Query.Keeps contract context) call) :
    Eval.Keeps contract (call.run site context) := by
  have stored (found : Option (Fields Value))
      (data : ∀ fields ∈ found, ∀ field ∈ fields, contract.Data field.2) :
      contract.Result ((found.map Value.object).getD .null) := by
    cases found with
    | none => exact .inr (contract.atom rfl)
    | some fields => exact .inr ((contract.object fields).2 (data fields rfl))
  -- Most calls give a text, a number or a marker; the others give what the context holds.
  cases call with
  | constant value => exact .pure (.inr inside)
  | deleted | nothing => exact .pure (.inl rfl)
  | throw message => exact Eval.keeps_error rfl
  | failing failure => exact inside.elim
  | «variable» name => exact .pure (Query.result_getD keeps.locals name)
  | content =>
    refine (Eval.keeps_message keeps).bind fun batch _ => ?_
    split
    · exact Eval.keeps_atom rfl
    · exact Eval.keeps_error rfl
  | json path =>
    refine (Eval.keeps_message keeps).bind fun batch each => ?_
    have document : Eval.Keeps contract (Eval.ofExcept (batch.value context.index)) := by
      unfold Batch.value Message.value
      split
      next message found =>
        split
        next value given => exact .pure ((each message found).value? value given)
        next => exact Eval.keeps_error rfl
      next => exact Eval.keeps_error rfl
    exact document.bind fun value result => .pure (contract.getOrNull result path)
  | incoming key =>
    cases key with
    | none =>
      refine .pure (stored _ fun fields found => ?_)
      obtain ⟨batch, given, found⟩ := Option.bind_eq_some_iff.1 found
      obtain ⟨message, first, rfl⟩ := Option.map_eq_some_iff.1 found
      exact (keeps.message batch given message first).metadata
    | some key =>
      refine .pure ?_
      cases found : context.batch.bind fun batch => batch.metadata? context.index key with
      | none => exact .inr (contract.atom rfl)
      | some value =>
        obtain ⟨batch, given, found⟩ := Option.bind_eq_some_iff.1 found
        obtain ⟨message, first, found⟩ := Option.bind_eq_some_iff.1 found
        have data := (keeps.message batch given message first).metadata
        exact .inr (data _ (Fields.mem_of_get? found))
  | working key => exact .pure (Query.result_metadata keeps key)
  | batchIndex | batchSize | now | unixTime => exact Eval.keeps_atom rfl
  | traceId =>
    refine Eval.keeps_atom ?_
    cases Eval.trace? context <;> rfl
  | traceHeaders =>
    refine .pure ?_
    cases Eval.trace? context with
    | none => exact .inr (contract.atom rfl)
    | some trace =>
      refine .inr ((contract.object _).2 fun field member => ?_)
      obtain ⟨_, _, rfl⟩ := List.mem_map.1 member
      exact contract.atom rfl
  | environment name =>
    refine Eval.keeps_atom ?_
    cases context.surroundings.processVariables.lookup name <;> rfl
  | identifier | count => exact (Eval.keeps_draw _).bind fun _ _ => Eval.keeps_atom rfl
  | counter least greatest override => exact Eval.keeps_counter site inside.1 inside.2.1 inside.2.2
  | random seed least greatest =>
    refine (Eval.keeps_generator site inside).bind fun state _ => ?_
    exact (Eval.keeps_keep site _).bind fun _ _ => Eval.keeps_atom rfl

/-- A query keeps to a contract where a call runs it: on the results that the context is narrowed
to, or in the context itself. -/
def Query.KeepsOn (contract : Contract) (context : Context) (narrows : Value → Prop) :
    Bool → Query → Prop
  | true, query => ∀ value, narrows value → contract.Result value →
    Query.Keeps contract (context.narrow value) query
  | false, query => Query.Keeps contract context query

/-- A constant that is a result keeps to a contract wherever it is run. -/
theorem Query.KeepsOn.literal {narrows : Value → Prop} (isScoped : Bool) (value : Value)
    (result : contract.Result value) :
    Query.KeepsOn contract context narrows isScoped (Bindable.ofLiteral value) := by
  cases isScoped with
  | true => exact fun _ _ _ => .pure result
  | false => exact .pure result

namespace MethodCall

variable {query : Query} {narrows : Value → Prop}

/-- What a query gives for an element keeps to a contract. -/
theorem keeps_element (inside : Query.KeepsOn contract context narrows true query) {value : Value}
    (hands : narrows value) (result : contract.Result value) :
    Eval.Keeps contract (element query context value) :=
  (inside value hands result).read

/-- Whether a test accepts an element is found, or what is wrong is reported. -/
theorem keeps_accepts (inside : Query.KeepsOn contract context narrows true query) {value : Value}
    (hands : narrows value) (result : contract.Result value) :
    Eval.Ensures (fun _ => True) contract.Reported (accepts query context value) := by
  refine (keeps_element inside hands result).bind fun given _ => ?_
  cases given with
  | bool truth => exact .pure trivial
  | _ => exact .failure (contract.label (contract.expected "bool" _) _)

/-- The elements of a result are data. -/
theorem data_elements {value : Value} (result : contract.Result value) :
    ∀ element ∈ Collection.elements value, contract.Data element := by
  intro element member
  -- Items are data, and an entry is an object of a name and of data.
  cases value with
  | array items => exact (contract.array items).1 (result.data rfl) element member
  | object fields =>
    obtain ⟨field, inside, rfl⟩ := List.mem_map.1 member
    have data := (contract.object fields).1 (result.data rfl) field inside
    refine (contract.object _).2 ?_
    simpa using ⟨contract.atom rfl, data⟩
  | _ => cases member

/-- What becomes of data when a result is given for it is data. -/
theorem data_mapped {item result : Value} (data : contract.Data item)
    (given : contract.Result result) : ∀ value ∈ Collection.mapped item result,
      contract.Data value := by
  intro value member
  -- A result that keeps the item gives the item, and any other one is data itself.
  unfold Collection.mapped at member
  split at member
  · cases member
  · exact Option.some.inj member ▸ data
  next unequal unequal' =>
    obtain rfl := Option.some.inj member
    refine given.data ?_
    cases result with
    | delete => exact (unequal rfl).elim
    | nothing => exact (unequal' rfl).elim
    | _ => rfl

variable {value : Value}

/-- Mapping the elements of a result keeps to a contract. -/
theorem keeps_mapEach (inside : Query.KeepsOn contract context narrows true query)
    (hands : ∀ handed ∈ Collection.elements value, narrows handed)
    (result : contract.Result value) :
    Eval.Keeps contract (Collection.mapEach (element query context) value) := by
  have elements := data_elements result
  have run (handed : Value) (member : handed ∈ Collection.elements value) :
      Eval.Keeps contract (element query context handed) :=
    keeps_element inside (hands handed member) (.inr (elements handed member))
  -- What comes of the elements is an array again, or an object with the same names.
  cases value with
  | array items =>
    have mapped := (Assertion.eval contract.Reported).filterMapM items fun item member =>
      (run item member).bind fun given result =>
        Eval.Ensures.pure (data_mapped (elements item member) result)
    exact mapped.bind fun items data => .pure (.inr ((contract.array items).2 data))
  | object fields =>
    have data := (contract.object fields).1 (result.data rfl)
    have mapped : Eval.Ensures (fun fields : Fields Value => ∀ field ∈ fields, contract.Data field.2)
        contract.Reported (fields.filterMapM fun field => do
          let given ← element query context (Collection.entry field.1 field.2)
          return (Collection.mapped field.2 given).map (field.1, ·)) := by
      refine (Assertion.eval contract.Reported).filterMapM fields fun field member => ?_
      refine (run _ (List.mem_map_of_mem member)).bind fun given result => .pure ?_
      intro field kept
      obtain ⟨new, same, rfl⟩ := Option.map_eq_some_iff.1 kept
      exact data_mapped (data _ member) result new same
    exact mapped.bind fun fields data => .pure (.inr ((contract.object fields).2 data))
  | _ => exact Eval.keeps_error rfl

/-- Filtering the elements of a result keeps to a contract. -/
theorem keeps_filter (inside : Query.KeepsOn contract context narrows true query)
    (hands : ∀ handed ∈ Collection.elements value, narrows handed)
    (result : contract.Result value) :
    Eval.Keeps contract (Collection.filter (accepts query context) value) := by
  have elements := data_elements result
  have run (handed : Value) (member : handed ∈ Collection.elements value) :
      Eval.Ensures (fun _ => True) contract.Reported (accepts query context handed) :=
    keeps_accepts inside (hands handed member) (.inr (elements handed member))
  -- An element is kept as it is, or left out.
  cases value with
  | array items =>
    have kept : Eval.Ensures (fun items : List Value => ∀ item ∈ items, contract.Data item)
        contract.Reported (items.filterMapM fun item => do
          return if ← accepts query context item then some item else none) := by
      refine (Assertion.eval contract.Reported).filterMapM items fun item member => ?_
      refine (run item member).bind fun accepted _ => .pure fun other same => ?_
      cases accepted with
      | true => exact Option.some.inj same ▸ elements item member
      | false => cases same
    exact kept.bind fun items data => .pure (.inr ((contract.array items).2 data))
  | object fields =>
    have data := (contract.object fields).1 (result.data rfl)
    have kept : Eval.Ensures (fun fields : Fields Value => ∀ field ∈ fields, contract.Data field.2)
        contract.Reported (fields.filterMapM fun field => do
          return if ← accepts query context (Collection.entry field.1 field.2) then some field
            else none) := by
      refine (Assertion.eval contract.Reported).filterMapM fields fun field member => ?_
      refine (run _ (List.mem_map_of_mem member)).bind fun accepted _ => .pure fun other same => ?_
      cases accepted with
      | true => exact Option.some.inj same ▸ data _ member
      | false => cases same
    exact kept.bind fun fields data => .pure (.inr ((contract.object fields).2 data))
  | _ => exact Eval.keeps_error rfl

/-- The items of a result, or the error that it is no array. -/
theorem keeps_items (result : contract.Result value) :
    Eval.Ensures (fun items => value = .array items ∧ ∀ item ∈ items, contract.Data item)
      contract.Reported (Eval.ofExcept (Collection.items value)) := by
  cases value with
  | array items => exact .pure ⟨rfl, (contract.array items).1 (result.data rfl)⟩
  | _ => exact Eval.keeps_error rfl

/-- What is done with the items of a result keeps to a contract if it does for every array. -/
theorem keeps_ofItems {next : List Value → Eval Value} (result : contract.Result value)
    (follows : ∀ items, value = .array items → (∀ item ∈ items, contract.Data item) →
      Eval.Keeps contract (next items)) :
    Eval.Keeps contract (match Collection.items value with
      | .ok items => next items
      | .error error => throw error) := by
  cases value with
  | array items => exact follows items rfl ((contract.array items).1 (result.data rfl))
  | _ => exact Eval.keeps_error rfl

/-- A verdict on the items of a result keeps to a contract. -/
theorem keeps_searched (verdict : Bool) (inside : Query.KeepsOn contract context narrows true query)
    (hands : ∀ handed, (∃ items, value = .array items ∧ handed ∈ items) → narrows handed)
    (result : contract.Result value) :
    Eval.Keeps contract (Collection.searched verdict (accepts query context) value) := by
  refine keeps_ofItems result fun items array data => ?_
  -- Whatever the test says of an item, what comes of it is a truth value.
  have asked := (Assertion.eval contract.Reported).searchM verdict items fun item member =>
    keeps_accepts inside (hands item ⟨items, array, member⟩) (.inr (data item member))
  exact asked.bind fun _ _ => Eval.keeps_atom rfl

/-- A fold of a result keeps to a contract, if the tallies that come to the query are data. -/
theorem keeps_fold {initial : Value} (inside : Query.KeepsOn contract context narrows true query)
    (hands : ∀ handed, (MethodCall.fold initial query).Hands context value handed → narrows handed)
    (tallies : ∀ tally item, narrows (Collection.tallied tally item) → contract.Data tally)
    (start : contract.Result initial) (result : contract.Result value) :
    Eval.Keeps contract (Collection.fold (element query context) initial value) := by
  refine keeps_ofItems result fun items array data => ?_
  have step (tally item : Value) (rest : List Value)
      (before : Tallies query context initial items (item :: rest) tally)
      (data : contract.Data item) :
      Eval.Ensures (fun next => Tallies query context initial items rest next ∧
        contract.Result next) contract.Reported
        (element query context (Collection.tallied tally item)) := by
    have handed := hands _ ⟨items, array, item, rest, tally, before, rfl⟩
    have pair : contract.Data (Collection.tallied tally item) :=
      (contract.object _).2 (by simpa using ⟨tallies tally item handed, data⟩)
    exact (keeps_element inside handed (.inr pair)).gives.mono fun next given =>
      ⟨.next before given.2, given.1⟩
  -- The fold has come to a tally, and the items that are left are data.
  refine Eval.Ensures.mono (fun tally holds => holds.1.2) <|
    (Assertion.eval contract.Reported).foldlM
      (motive := fun rest tally => (Tallies query context initial items rest tally ∧
        contract.Result tally) ∧ ∀ item ∈ rest, contract.Data item) items initial
      ⟨⟨.start, start⟩, data⟩ fun tally item rest ⟨before, data⟩ => ?_
  rw [List.forall_mem_cons] at data
  exact (step tally item rest before.1 data.1).mono fun next holds => ⟨holds, data.2⟩

end MethodCall

/-- A call of a method keeps to a contract on a target that the method takes, if the tallies that
come to its query are data. -/
theorem MethodCall.Keeps.run {method : Method} {narrows : Value → Prop} {call : MethodCall Query}
    {target : Except Error Value}
    (keeps : MethodCall.Keeps contract method (Query.KeepsOn contract context narrows) call)
    (outcome : Outcome.Ensures (fun value => contract.Result value ∧ method.Takes contract value ∧
      ∀ handed, call.Hands context value handed → narrows handed) contract.Reported target)
    (tallies : method = .fold → ∀ tally item, narrows (Collection.tallied tally item) →
      contract.Data tally) : Eval.Keeps contract (call.run target context) := by
  -- Only a fallback is asked for where the target has failed.
  cases outcome with
  | failure reported =>
    cases call with
    | fallback isForNull query =>
      have own : Query.Keeps contract context query := keeps
      exact own.read
    | _ => exact .failure reported
  | @value value holds =>
    obtain ⟨result, takes, hands⟩ := holds
    cases call with
    | plain operation => exact .ofExcept (keeps value takes)
    | fallback isForNull query =>
      have own : Query.Keeps contract context query := keeps
      simp only [MethodCall.run]
      split
      · exact own.read
      · exact .pure result
    | mapEach query => exact keeps_mapEach keeps hands result
    | filter query => exact keeps_filter keeps hands result
    | any query =>
      rw [MethodCall.run, Collection.any_eq_searched]
      exact keeps_searched true keeps hands result
    | all query =>
      rw [MethodCall.run, Collection.all_eq_searched]
      exact keeps_searched false keeps hands result
    | fold initial query =>
      obtain ⟨fold, start, inside⟩ := keeps
      exact keeps_fold inside hands (tallies fold) start result
    | sort before =>
      refine (keeps_items result).bind fun items holds => ?_
      obtain ⟨array, data⟩ := holds
      have compared (a b : Value) (first : a ∈ items) (second : b ∈ items) :
          Eval.Ensures (fun _ => True) contract.Reported
            (accepts before context (Collection.compared a b)) := by
        have both : contract.Data (Collection.compared a b) :=
          (contract.object _).2 (by simpa using ⟨data a first, data b second⟩)
        exact keeps_accepts keeps (hands _ ⟨items, array, a, first, b, second, rfl⟩) (.inr both)
      have sorted := (Assertion.eval contract.Reported).sortItems compared items fun _ member => member
      exact sorted.bind fun found among =>
        .pure (.inr ((contract.array found).2 fun item member => data item (among item member)))
    | sortBy key =>
      refine (keeps_items result).bind fun items holds => ?_
      obtain ⟨array, data⟩ := holds
      have keyed : Eval.Ensures (List.Forall₂ (fun _ pair => contract.Data pair.2) items)
          contract.Reported (items.mapM (MethodCall.keyed key context)) := by
        refine (Assertion.eval contract.Reported).mapM items fun item member => ?_
        have run := keeps_element keeps (hands item ⟨items, array, member⟩) (.inr (data item member))
        exact run.bind fun _ _ => .pure (data item member)
      exact keyed.bind fun pairs each =>
        .ofExcept (Collection.keeps_sortKeyed (forall₂_left each.flip))

namespace Query

/-- A call of a function that is in every environment keeps to a contract if its arguments do. -/
theorem keeps_function (site : Site) (function : Function) (builtin : function ∈ Function.builtin)
    {slots : List (Slot Query)} (keeps : Context.Keeps contract context)
    (readies : Bound.Readies contract (Query.KeepsOn contract context fun _ => False)
      (fun query => Eval.Keeps contract (query.read context)) (function.signature.attach slots)) :
    Eval.Keeps contract (Query.function site function slots context) := by
  -- The defaults of the parameters are constants, and so results that may be bound.
  have declared : (function.signature.attach slots).parameters = function.signature.parameters := by
    rw [Signature.attach_parameters]
    simp [function.not_isVariadic]
  have standard : ∀ parameter ∈ (function.signature.attach slots).parameters,
      ∀ constant ∈ parameter.standard, contract.Result constant := by
    rw [declared]
    exact fun parameter member constant given =>
      .inr (contract.atom (function.isAtom_of_standard parameter member constant given))
  refine (readies.resolve standard).bind fun bound ⟨inside, parameters⟩ => ?_
  have prepared := function.prepare_keeps builtin inside KeepsOn.literal (parameters.trans declared)
  exact (Eval.Ensures.ofExcept prepared).bind fun call inside => inside.run site keeps

/-- A call of a method keeps to a contract if its target and its arguments do, and what it puts into
other values is data. -/
theorem keeps_method (target : Query) (method : Method) {slots : List (Slot Query)}
    {narrows : Value → Prop} (own : Query.Keeps contract context target)
    (readies : Bound.Readies contract (Query.KeepsOn contract context narrows)
      (fun query => Eval.Keeps contract (query.read context)) (method.signature.attach slots))
    (takes : ∀ value, (target.read context).Gives value → contract.Result value →
      method.Takes contract value)
    (stored : ∀ bound, ((method.signature.attach slots).resolve
      fun (query : Query) => query.read context).Gives bound →
        ∀ value ∈ method.stored bound, contract.Data value)
    (hands : ∀ value bound call handed, (target.read context).Gives value →
      ((method.signature.attach slots).resolve
        fun (query : Query) => query.read context).Gives bound →
          method.prepare bound = .ok call → call.Hands context value handed → narrows handed)
    (tallies : method = .fold → ∀ tally item, narrows (Collection.tallied tally item) →
      contract.Data tally) :
    Eval.Keeps contract (Query.method target method slots context) := by
  have declared : (method.signature.attach slots).parameters = method.signature.parameters :=
    Signature.attach_parameters _ _ method.parameters_of_isVariadic
  have standard : ∀ parameter ∈ (method.signature.attach slots).parameters,
      ∀ constant ∈ parameter.standard, contract.Result constant := by
    rw [declared]
    exact fun parameter member constant given =>
      .inr (contract.atom (method.isAtom_of_standard parameter member constant given))
  have attempted : Eval.Ensures _ contract.Reported (target.read context).attempt := own.read.attempt
  refine Eval.Ensures.adapt (attempted.bind fun outcome reached => ?_) fun _ reported =>
    contract.label reported target.label
  refine (readies.resolve standard).gives.bind fun bound ⟨⟨inside, parameters⟩, binds⟩ => ?_
  have prepared := method.prepare_keeps inside KeepsOn.literal (parameters.trans declared)
    (stored bound binds)
  -- The call runs on a target that the method takes, and hands on what narrows the context.
  generalize made : method.prepare bound = outcome' at prepared
  cases prepared with
  | failure reported => exact .failure reported
  | @value call kept =>
    refine kept.run (reached.mono fun value ⟨result, gives⟩ => ⟨result, ?_, ?_⟩) tallies
    · exact takes value gives result
    · exact fun handed => hands value bound call handed gives binds made

end Query

end Reshape
