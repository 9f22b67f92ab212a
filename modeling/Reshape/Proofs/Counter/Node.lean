import Reshape.Proofs.Counter.Tally
import Reshape.Proofs.Eval.Frame
import Reshape.Proofs.Eval.Replay

/-!
Counters in expressions: what a call of a counter does with the tally in its cell is what the tally
does on a request, which tells what the arguments of the call give.
-/

namespace Reshape

/-- The arguments of a counter as the compiler binds them. -/
structure Counter where
  least : Expr
  greatest : Expr
  override : Option Expr
  deriving Repr

namespace Counter

open CyclicCounter (Order Answer Request)

/-- The slots of a counter. -/
def slots (counter : Counter) : List (Slot Expr) :=
  [.query counter.least, .query counter.greatest,
    match counter.override with
    | some override => .query override
    | none => .absent]

/-- The meaning of a counter at a site. -/
def query (counter : Counter) (site : Site) : Query :=
  (Expr.call .counter counter.slots).denote site

/-- The meaning of the least value. -/
def leastAt (counter : Counter) (site : Site) : Query := counter.least.denote (0 :: site)

/-- The meaning of the greatest value. -/
def greatestAt (counter : Counter) (site : Site) : Query := counter.greatest.denote (1 :: site)

/-- The meaning of the override. -/
def overrideAt (counter : Counter) (site : Site) : Option Query :=
  counter.override.map (Expr.denote (2 :: site))

/-- What the bounds of a counter give. -/
def bounds (counter : Counter) (site : Site) (context : Context) : Eval (Int × Int) := do
  let least ← (counter.leastAt site).integer "min" context
  let greatest ← (counter.greatestAt site).integer "max" context
  return (least, greatest)

/-- What the value of an override asks for. -/
def wish : Value → Order
  | .nothing => .peek
  | .delete => .restart
  | .null => .count
  | value =>
    match value.toInt64? with
    | some integer => .replace integer
    | none => .refuse

/-- What the override of a counter asks for. -/
def order (counter : Counter) (site : Site) (context : Context) (memory : Memory) : Order :=
  match counter.overrideAt site with
  | none => .count
  | some override =>
    match ((override.read context).outcome memory).1 with
    | .ok value => wish value
    | .error _ => .refuse

/-- What a counter is asked in a context and memory. Its bounds are those that the arguments give
there, also if they are not asked for any more. The override is read after the counter has got its
bounds. -/
def asked (counter : Counter) (site : Site) (context : Context) (memory : Memory) : Request :=
  let settled := (Eval.tally site (counter.leastAt site) (counter.greatestAt site) context).outcome
    memory
  { bounds := ((counter.bounds site context).outcome memory).1.toOption
    order := counter.order site context settled.2 }

/-- What a call asks of its counter. -/
def request (counter : Counter) (site : Site) (turn : Turn) : Request :=
  counter.asked site turn.occasion.context (turn.occasion.memory.withCell site turn.found)

/-- The slots of a counter that was bound. -/
theorem eq_slots_of_bindSlots {arguments : List (Argument Expr)} {slots : List (Slot Expr)}
    (bound : Function.counter.signature.bindSlots arguments = .ok slots) :
    ∃ counter : Counter, slots = counter.slots := by
  have each := Signature.slots_of_bindSlots rfl bound
  -- All three parameters are queries, and a constant stands for each of the bounds.
  obtain _ | ⟨⟨_, first⟩, _ | ⟨⟨_, second⟩, _ | ⟨⟨_, third⟩, _ | _⟩⟩⟩ := each
  obtain ⟨least, rfl⟩ | ⟨absent, _⟩ := Slot.of_bind_query rfl first
  · obtain ⟨greatest, rfl⟩ | ⟨absent, _⟩ := Slot.of_bind_query rfl second
    · obtain ⟨override, rfl⟩ | ⟨_, rfl⟩ := Slot.of_bind_query rfl third
      · exact ⟨⟨least, greatest, some override⟩, rfl⟩
      · exact ⟨⟨least, greatest, none⟩, rfl⟩
    · cases absent
  · cases absent

/-- A counter reads its bounds and its override where it stands. -/
theorem run_query (counter : Counter) (site : Site) (context : Context) :
    (counter.query site).run context =
      Eval.counter site (counter.leastAt site) (counter.greatestAt site)
        (counter.overrideAt site) context := by
  obtain ⟨least, greatest, override⟩ := counter
  -- An override that is missing leaves its slot empty.
  cases override with
  | none => rfl
  | some override => rfl

variable (counter : Counter) (site : Site) (cell : Option Cell)

/-- The least value is read without a change to the cell of the counter. -/
theorem obeys_leastAt :
    Query.Obeys (.keeping fun memory => memory.cell? site = cell) (counter.leastAt site) :=
  counter.least.obeys_keeping (Site.not_suffix_below 0 site) cell

/-- The greatest value is read without a change to the cell of the counter. -/
theorem obeys_greatestAt :
    Query.Obeys (.keeping fun memory => memory.cell? site = cell) (counter.greatestAt site) :=
  counter.greatest.obeys_keeping (Site.not_suffix_below 1 site) cell

/-- The override is read without a change to the cell of the counter. -/
theorem obeys_overrideAt {override : Query} (given : counter.overrideAt site = some override) :
    Query.Obeys (.keeping fun memory => memory.cell? site = cell) override := by
  obtain ⟨expr, _, rfl⟩ := Option.map_eq_some_iff.1 given
  exact expr.obeys_keeping (Site.not_suffix_below 2 site) cell

/-- The bounds are read without a change to the cell of the counter. -/
theorem obeys_bounds (context : Context) :
    Eval.Obeys (.keeping fun memory => memory.cell? site = cell) (counter.bounds site context) :=
  ((counter.obeys_leastAt site cell).integer "min" context).bind fun _ =>
    ((counter.obeys_greatestAt site cell).integer "max" context).map _

end Counter

open CyclicCounter (Order Answer Request)

/-- What a call gives is an integer, written with 64 bits, or an error without one. -/
inductive Tally.Yields : Option Int → Except Error Value → Prop where
  | value (value : Int) : Yields (some value) (.ok (.int (Int64.ofInt value)))
  | failure (error : Error) : Yields none (.error error)

/-- A call that fails is given no integer. -/
theorem Tally.yields_error {integer : Option Int} {error : Error}
    (yields : Yields integer (.error error)) : integer = none := by
  cases yields with
  | failure => rfl

/-- A call ends with an integer and a tally: it gives the integer, or fails without one, and leaves
the tally in its cell, or nothing without one. -/
structure Tally.Ends (site : Site) (stepped : Option Int × Option Tally)
    (ended : Except Error Value × Memory) : Prop where
  yields : Yields stepped.1 ended.1
  keeps : ended.2.cell? site = stepped.2.map .tally

namespace Eval

/-- What a counter gives for the value of its override. -/
def comply (site : Site) (tally : Tally) (value : Value) : Eval Value :=
  match value with
  | .nothing => return .int (Int64.ofInt tally.current)
  | .delete => count site tally.restarted
  | .null => count site tally
  | value =>
    match value.toInt64? with
    | some current => do
      keep site (.tally { tally with current := current.toInt })
      return .int current
    | none => fail (.expected "integer" value)

/-- What a counter gives when its tally is found. -/
def obey (site : Site) (tally : Tally) (override : Option Query) (context : Context) :
    Eval Value := do
  match override with
  | none => count site tally
  | some override => comply site tally (← override.read context)

/-- A counter finds its tally before it reads its override. -/
theorem counter_eq (site : Site) (least greatest : Query) (override : Option Query)
    (context : Context) :
    counter site least greatest override context =
      (do obey site (← tally site least greatest context) override context) := by
  cases override with
  | none => rfl
  | some override => rfl

end Eval

namespace Counter

variable {counter : Counter} {site : Site} {context : Context} {memory : Memory}

/-- Without a tally, the bounds are read, and a tally that they make is kept. -/
theorem outcome_tally_of_none (unkept : memory.cell? site = none) :
    (Eval.tally site (counter.leastAt site) (counter.greatestAt site) context).outcome memory =
      Eval.outcome (do
        let bounds ← counter.bounds site context
        let tally ← Eval.ofExcept ((Tally.between bounds.1 bounds.2).mapError Error.arguments)
        Eval.keep site (.tally tally)
        return tally) memory := by
  unfold Eval.tally
  rw [Eval.outcome_get, unkept]
  simp only [bounds, bind_assoc, pure_bind]

/-- What a parameter of a counter gives is an integer of 64 bits. -/
theorem ensures_integer (query : Query) (name : String) (context : Context) :
    Eval.Ensures (fun value => ∃ integer : Int64, integer.toInt = value) (fun _ => True)
      (query.integer name context) := by
  -- The value may be any, but only an integer of 64 bits is handed on.
  have read : Eval.Ensures (fun _ => True) (fun _ => True) (query.read context) := by
    intro memory
    cases ((query.read context).outcome memory).1 with
    | ok value => exact .value trivial
    | error error => exact .failure trivial
  refine read.bind fun value _ => ?_
  cases value.toInt64? with
  | some result => exact .pure ⟨result, rfl⟩
  | none => exact .failure trivial

/-- What the bounds of a counter give are integers of 64 bits. -/
theorem ensures_bounds (counter : Counter) (site : Site) (context : Context) :
    Eval.Ensures (fun given => ∃ least greatest : Int64, given = (least.toInt, greatest.toInt))
      (fun _ => True) (counter.bounds site context) := by
  refine (ensures_integer _ _ _).bind fun low ⟨least, first⟩ => ?_
  refine (ensures_integer _ _ _).bind fun high ⟨greatest, second⟩ => ?_
  exact .pure ⟨least, greatest, by rw [first, second]⟩

/-- The bounds of a request are integers of 64 bits. -/
theorem integers_of_request (counter : Counter) (site : Site) (turn : Turn) :
    ∀ bounds ∈ (counter.request site turn).bounds, ∃ least greatest : Int64,
      bounds = (least.toInt, greatest.toInt) := by
  intro bounds known
  have ensures := counter.ensures_bounds site turn.occasion.context
    (turn.occasion.memory.withCell site turn.found)
  simp only [request, asked, Option.mem_def] at known
  -- Only a value is taken from the outcome.
  generalize ((counter.bounds site turn.occasion.context).outcome _).1 = read at ensures known
  cases ensures with
  | value holds =>
    obtain rfl := Option.some.inj known
    exact holds
  | failure => cases known

/-- A call finds the tally of its counter, or makes one of valid bounds, or fails without one. -/
theorem outcome_tally {state : Option Tally} (own : memory.cell? site = state.map .tally)
    {request : Request}
    (asked : request.bounds = ((counter.bounds site context).outcome memory).1.toOption) :
    ∃ outcome after,
      (Eval.tally site (counter.leastAt site) (counter.greatestAt site) context).outcome memory =
          (outcome, after) ∧
        outcome.toOption = state.or (Tally.ofRequest? request) ∧
          after.cell? site = outcome.toOption.map .tally := by
  -- A tally that is there is used as it is, whatever the bounds of the request are.
  cases state with
  | some tally => exact ⟨_, _, Eval.outcome_tally_of_kept own, rfl, own⟩
  | none =>
    rw [outcome_tally_of_none own, Eval.outcome_bind]
    have unkept := (counter.obeys_bounds site none context).kept own
    unfold Tally.ofRequest?
    rw [asked]
    generalize (counter.bounds site context).outcome memory = read at unkept ⊢
    obtain ⟨error | bounds, after⟩ := read
    · exact ⟨_, _, rfl, rfl, unkept⟩
    · -- Bounds that are not valid are refused, and others make a tally that is kept.
      cases made : Tally.between bounds.1 bounds.2 with
      | error fault => exact ⟨.error (.arguments fault), after, by simp only [made]; rfl,
          by simp [made, Except.toOption], unkept⟩
      | ok tally => exact ⟨.ok tally, after.keep site (.tally tally), by simp only [made]; rfl,
          by simp [made, Except.toOption], Memory.cell?_keep_self after site (.tally tally)⟩

/-- A counter that counts gives the next value of its tally. -/
theorem outcome_count (site : Site) (tally : Tally) (memory : Memory) :
    Tally.Ends site (some tally.next.1, some tally.next.2)
      ((Eval.count site tally).outcome memory) :=
  ⟨.value _, Memory.cell?_keep_self _ _ _⟩

/-- A value without a meaning of its own asks to be given if it is an integer. -/
theorem wish_integer {value : Value} (noPeek : value ≠ .nothing) (noRestart : value ≠ .delete)
    (noCount : value ≠ .null) :
    wish value = match value.toInt64? with
      | some integer => .replace integer
      | none => .refuse := by
  unfold wish
  -- The first three values have a meaning of their own.
  split
  · exact absurd rfl noPeek
  · exact absurd rfl noRestart
  · exact absurd rfl noCount
  · rfl

/-- A counter does on the value of its override what its tally does on the order. -/
theorem outcome_comply {tally : Tally} {memory : Memory}
    (own : memory.cell? site = some (.tally tally)) (value : Value) :
    Tally.Ends site ((tally.obey (wish value)).1, some (tally.obey (wish value)).2)
      ((Eval.comply site tally value).outcome memory) := by
  unfold Eval.comply
  -- Both look at the same value; any value without a meaning of its own has to be an integer.
  split
  · exact ⟨.value _, own⟩
  · exact outcome_count site tally.restarted memory
  · exact outcome_count site tally memory
  next noPeek noRestart noCount =>
    rw [wish_integer noPeek noRestart noCount]
    cases value.toInt64? with
    | none => exact ⟨.failure _, own⟩
    | some integer =>
      refine ⟨?_, Memory.cell?_keep_self memory site _⟩
      have given := Tally.Yields.value integer.toInt
      rwa [Int64.ofInt_toInt] at given

/-- A counter that has its tally does what the tally does on the order. -/
theorem outcome_obey {tally : Tally} (own : memory.cell? site = some (.tally tally)) :
    let order := counter.order site context memory
    Tally.Ends site ((tally.obey order).1, some (tally.obey order).2)
      ((Eval.obey site tally (counter.overrideAt site) context).outcome memory) := by
  unfold Eval.obey order
  cases given : counter.overrideAt site with
  | none => exact outcome_count site tally memory
  | some override =>
    dsimp only
    -- The tally is still in the cell when the override has been read.
    have kept := ((counter.obeys_overrideAt site _ given).read context).kept own
    rw [Eval.outcome_bind]
    generalize (override.read context).outcome memory = read at kept ⊢
    obtain ⟨error | value, after⟩ := read
    · exact ⟨.failure error, kept⟩
    · exact outcome_comply kept value

/-- A counter does what the tally in its cell, or one that is made, does on what is asked. -/
theorem outcome_query {state : Option Tally} (own : memory.cell? site = state.map .tally) :
    Tally.Ends site (Tally.step state (counter.asked site context memory))
      (((counter.query site).run context).outcome memory) := by
  have known : (counter.asked site context memory).bounds =
      ((counter.bounds site context).outcome memory).1.toOption := rfl
  have wanted : (counter.asked site context memory).order = counter.order site context
      ((Eval.tally site (counter.leastAt site) (counter.greatestAt site) context).outcome
        memory).2 := rfl
  obtain ⟨outcome, after, found, settled, kept⟩ := outcome_tally own known
  generalize counter.asked site context memory = request at known wanted settled ⊢
  rw [found] at wanted
  rw [run_query, Eval.counter_eq, Eval.outcome_bind, found]
  unfold Tally.step
  rw [← settled]
  -- Without bounds the call has failed already.
  cases outcome with
  | error error => exact ⟨.failure error, kept⟩
  | ok tally =>
    simp only [Except.toOption, wanted]
    exact outcome_obey kept

/-- A call of a counter is a step of the tally in its cell. -/
theorem ends_turn (counter : Counter) (site : Site) (state : Option Tally) (occasion : Occasion) :
    let turn := (counter.query site).turn site (state.map .tally) occasion
    let stepped := Tally.step state (counter.request site turn)
    Tally.Yields stepped.1 turn.result ∧ turn.left = stepped.2.map .tally := by
  -- The call finds the tally in the memory of its occasion.
  have own : (occasion.memory.withCell site (state.map .tally)).cell? site = state.map .tally :=
    Memory.cell?_withCell _ _ _
  have ends : Tally.Ends site _ (((counter.query site).run occasion.context).outcome _) :=
    outcome_query own
  exact ⟨ends.yields, ends.keeps⟩

/-- A call that fails leaves the tally that it has found, or one that it has made of its bounds. -/
theorem left_of_error (counter : Counter) (site : Site) (state : Option Tally)
    (occasion : Occasion) {error : Error}
    (failed : ((counter.query site).turn site (state.map .tally) occasion).result = .error error) :
    let turn := (counter.query site).turn site (state.map .tally) occasion
    turn.left = (state.or (Tally.ofRequest? (counter.request site turn))).map .tally := by
  intro turn
  obtain ⟨yields, kept⟩ := counter.ends_turn site state occasion
  rw [failed] at yields
  -- Only a refusal gives no integer, and it does not change the tally.
  have unchanged : (Tally.step state (counter.request site turn)).2 =
      state.or (Tally.ofRequest? (counter.request site turn)) :=
    Tally.step_of_none (Tally.yields_error yields)
  exact kept.trans (congrArg _ unchanged)

end Counter

end Reshape
