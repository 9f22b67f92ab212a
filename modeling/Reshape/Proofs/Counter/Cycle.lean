import Reshape.Eval.Memory

/-!
Cyclic counters: a machine that gives the integers between two bounds in order and starts over after
the greatest one. It keeps the next value to give, and gets its bounds from the first request that
has valid ones.
-/

namespace Reshape

/-- A cyclic counter. -/
structure CyclicCounter where
  least : Int
  greatest : Int
  /-- The next value to give. -/
  next : Int
  deriving DecidableEq, Repr

namespace CyclicCounter

/-- What a request asks of a counter. -/
inductive Order where
  /-- The next value. -/
  | count
  /-- The least value, as if nothing had been given before. -/
  | restart
  /-- An integer in the place of the next value. -/
  | replace (value : Int64)
  /-- A value without counting. -/
  | peek
  /-- What no counter can do. -/
  | refuse
  deriving DecidableEq, Repr

/-- What a counter answers. -/
inductive Answer where
  /-- An integer that was asked for. -/
  | gives (value : Int)
  /-- Some integer, without counting. -/
  | shows
  | fails
  deriving DecidableEq, Repr

/-- What is asked of a counter that may have no bounds yet. -/
structure Request where
  /-- The least and the greatest value that the counter would have, if they are known. -/
  bounds : Option (Int × Int)
  order : Order
  deriving DecidableEq, Repr

/-- A counter is well-formed: its bounds are in order, and it does not go beyond the greatest. -/
structure WellFormed (counter : CyclicCounter) : Prop where
  nonnegative : 0 ≤ counter.least
  nonempty : counter.least < counter.greatest
  within : counter.next ≤ counter.greatest

/-- The least and the greatest value. -/
def bounds (counter : CyclicCounter) : Int × Int := (counter.least, counter.greatest)

/-- How many values there are. -/
def period (counter : CyclicCounter) : Int := counter.greatest - counter.least + 1

/-- A counter before its first value, if the bounds are valid. -/
def between? (bounds : Int × Int) : Option CyclicCounter :=
  if 0 ≤ bounds.1 ∧ bounds.1 < bounds.2 then some ⟨bounds.1, bounds.2, bounds.1⟩ else none

/-- The counter after it has given its next value. -/
def advance (counter : CyclicCounter) : CyclicCounter :=
  { counter with
    next := if counter.next = counter.greatest then counter.least else counter.next + 1 }

/-- What a counter does on an order. -/
def obey (counter : CyclicCounter) : Order → Answer × CyclicCounter
  | .count => (.gives counter.next, counter.advance)
  | .restart => (.gives counter.least, { counter with next := counter.least }.advance)
  | .replace value =>
    (.gives value.toInt, { counter with next := min (value.toInt + 1) counter.greatest })
  | .peek => (.shows, counter)
  | .refuse => (.fails, counter)

/-- The bounds of a request, if they are valid. -/
def Request.valid? (request : Request) : Option CyclicCounter := request.bounds.bind between?

/-- What a counter does on a request. Bounds that it has are kept. -/
def step (state : Option CyclicCounter) (request : Request) : Answer × Option CyclicCounter :=
  match state.or request.valid? with
  | none => (.fails, none)
  | some counter => ((counter.obey request.order).1, some (counter.obey request.order).2)

/-- The answers to requests, one after the other. -/
def answers (state : Option CyclicCounter) : List Request → List Answer
  | [] => []
  | request :: later => (step state request).1 :: answers (step state request).2 later

/-- The counter after requests. -/
def after (state : Option CyclicCounter) (requests : List Request) : Option CyclicCounter :=
  requests.foldl (fun state request => (step state request).2) state

/-- The integer that an answer gives. -/
def Answer.value? : Answer → Option Int
  | .gives value => some value
  | _ => none

/-- The integers that are given on requests. -/
def given (state : Option CyclicCounter) (requests : List Request) : List Int :=
  (answers state requests).filterMap Answer.value?

/-- A request leaves the values to the counter. -/
def Request.IsFree (request : Request) : Prop := ∀ value, request.order ≠ .replace value

/-- How far a counter has turned from its least value. -/
def turned (state : Option CyclicCounter) : Int :=
  match state with
  | some counter => counter.next - counter.least
  | none => 0

/-- A counter, if there is one, is well-formed and has its next value between its bounds. -/
def Within (state : Option CyclicCounter) : Prop :=
  ∀ counter ∈ state, counter.WellFormed ∧ counter.least ≤ counter.next

variable {counter : CyclicCounter}

section Step

/-- Valid bounds make a well-formed counter that has not counted. -/
theorem wellFormed_of_between? {bounds : Int × Int} (made : between? bounds = some counter) :
    counter.WellFormed ∧ counter.next = counter.least ∧ counter.bounds = bounds := by
  unfold between? at made
  -- Only bounds that are in order make a counter, and its first value is the least one.
  split at made
  next valid =>
    obtain rfl := Option.some.inj made
    exact ⟨⟨valid.1, valid.2, Int.le_of_lt valid.2⟩, rfl, rfl⟩
  next => cases made

/-- No order changes the bounds. -/
@[simp] theorem bounds_obey (counter : CyclicCounter) (order : Order) :
    (counter.obey order).2.bounds = counter.bounds := by
  cases order <;> rfl

/-- Counting keeps a counter well-formed. -/
theorem WellFormed.advance (formed : counter.WellFormed) : counter.advance.WellFormed := by
  obtain ⟨nonnegative, nonempty, within⟩ := formed
  refine ⟨nonnegative, nonempty, ?_⟩
  -- The greatest value is followed by the least, and any other one has a successor.
  unfold CyclicCounter.advance
  dsimp only
  split <;> omega

/-- Every order keeps a counter well-formed. -/
theorem WellFormed.obey (formed : counter.WellFormed) (order : Order) :
    (counter.obey order).2.WellFormed := by
  have restarted : { counter with next := counter.least }.WellFormed :=
    ⟨formed.nonnegative, formed.nonempty, Int.le_of_lt formed.nonempty⟩
  -- An order that counts starts from the next value or from the least one.
  cases order with
  | count => exact formed.advance
  | restart => exact restarted.advance
  | replace value => exact ⟨formed.nonnegative, formed.nonempty, Int.min_le_right _ _⟩
  | peek => exact formed
  | refuse => exact formed

/-- A request either finds no bounds, and fails, or goes to a counter that has its bounds. -/
theorem step_cases (state : Option CyclicCounter) (request : Request) :
    (state = none ∧ request.valid? = none ∧ step state request = (.fails, none)) ∨
    ∃ counter, (state = some counter ∨ state = none ∧ request.valid? = some counter) ∧
      step state request =
        ((counter.obey request.order).1, some (counter.obey request.order).2) := by
  -- A counter has its bounds already, or it gets those of the request.
  cases state with
  | some counter => exact .inr ⟨counter, .inl rfl, rfl⟩
  | none =>
    cases made : request.valid? with
    | some counter => exact .inr ⟨counter, .inr ⟨rfl, rfl⟩, by simp [step, made]⟩
    | none => exact .inl ⟨rfl, rfl, by simp [step, made]⟩

/-- A counter that is found or made is within its bounds, as far as it has turned. -/
theorem Within.start {state : Option CyclicCounter} {request : Request} (inside : Within state)
    (found : state = some counter ∨ state = none ∧ request.valid? = some counter) :
    counter.WellFormed ∧ counter.least ≤ counter.next ∧
      turned state = counter.next - counter.least := by
  -- A counter that is made has not turned yet.
  rcases found with rfl | ⟨rfl, made⟩
  · exact ⟨(inside counter rfl).1, (inside counter rfl).2, rfl⟩
  · obtain ⟨bounds, _, made⟩ := Option.bind_eq_some_iff.1 made
    obtain ⟨formed, fresh, _⟩ := wellFormed_of_between? made
    refine ⟨formed, Int.le_of_eq fresh.symm, ?_⟩
    rw [fresh, Int.sub_self]
    rfl

/-- An order that leaves the values to a counter is answered with the next value, which is counted,
or with the least value, from which counting starts over, or with no integer and without a change. -/
theorem obey_cases (counter : CyclicCounter) {order : Order}
    (free : ∀ value, order ≠ .replace value) :
    (order = .count ∧ counter.obey order = (.gives counter.next, counter.advance)) ∨
    (order = .restart ∧
      counter.obey order = (.gives counter.least, { counter with next := counter.least }.advance)) ∨
    ((counter.obey order).1.value? = none ∧ (counter.obey order).2 = counter) := by
  -- Of the orders only counting and starting again move the counter.
  cases order with
  | count => exact .inl ⟨rfl, rfl⟩
  | restart => exact .inr (.inl ⟨rfl, rfl⟩)
  | replace value => exact absurd rfl (free value)
  | peek => exact .inr (.inr ⟨rfl, rfl⟩)
  | refuse => exact .inr (.inr ⟨rfl, rfl⟩)

/-- Counting does not take a counter below its least value. -/
theorem least_le_advance (above : counter.least ≤ counter.next) :
    counter.advance.least ≤ counter.advance.next := by
  -- The next value is the least one again, or one more than before.
  simp only [advance]
  split <;> omega

/-- An order that leaves the values to a counter keeps it between its bounds. -/
theorem least_le_obey {order : Order} (free : ∀ value, order ≠ .replace value)
    (above : counter.least ≤ counter.next) :
    (counter.obey order).2.least ≤ (counter.obey order).2.next := by
  rcases counter.obey_cases free with ⟨_, same⟩ | ⟨_, same⟩ | ⟨_, same⟩
  · rw [same]
    exact least_le_advance above
  · -- A counter that starts over is at its least value when it counts.
    rw [same]
    exact least_le_advance (Int.le_refl counter.least)
  · rw [same]
    exact above

/-- A request that leaves the values to a counter keeps it between its bounds. -/
theorem Within.step {state : Option CyclicCounter} {request : Request} (inside : Within state)
    (free : request.IsFree) : Within (step state request).2 := by
  -- A step without a counter leaves none; one with a counter obeys the order.
  rcases step_cases state request with ⟨_, _, same⟩ | ⟨counter, found, same⟩
  · rw [same]
    exact fun _ none => nomatch none
  · rw [same]
    rintro _ ⟨⟩
    obtain ⟨formed, above, _⟩ := inside.start found
    exact ⟨formed.obey request.order, least_le_obey free above⟩

/-- Counting takes a counter one further around the circle. -/
theorem turned_advance (formed : counter.WellFormed) (above : counter.least ≤ counter.next) :
    turned (some counter.advance) = (turned (some counter) + 1) % counter.period := by
  obtain ⟨_, nonempty, within⟩ := formed
  unfold turned advance period
  dsimp only
  split
  next last =>
    -- Behind the greatest value the circle is complete.
    have complete : counter.next - counter.least + 1 =
        counter.greatest - counter.least + 1 := by omega
    rw [complete, Int.emod_self, Int.sub_self]
  next =>
    have inside : (counter.next - counter.least + 1) % (counter.greatest - counter.least + 1) =
        counter.next - counter.least + 1 := Int.emod_eq_of_lt (by omega) (by omega)
    rw [inside]
    omega

end Step

section Run

/-- What follows some requests starts from the counter that they leave. -/
theorem after_append (state : Option CyclicCounter) (earlier later : List Request) :
    after state (earlier ++ later) = after (after state earlier) later :=
  List.foldl_append

/-- The first integer that is given on requests is that of the first answer, if it gives one. -/
theorem given_cons (state : Option CyclicCounter) (request : Request) (later : List Request) :
    given state (request :: later) =
      (step state request).1.value?.toList ++ given (step state request).2 later := by
  unfold given
  rw [answers, List.filterMap_cons]
  cases (step state request).1.value? <;> rfl

/-- A counter has the bounds that it had before requests, or else the first valid ones of these. -/
theorem bounds_after (state : Option CyclicCounter) (requests : List Request) :
    (after state requests).map bounds =
      (state.or (requests.findSome? Request.valid?)).map bounds := by
  induction requests generalizing state with
  | nil => simp [after]
  | cons request later ih =>
    rw [after, List.foldl_cons, ← after, ih, List.findSome?_cons]
    -- Bounds that are known, or that the request has, are kept; else the search goes on.
    rcases step_cases state request with ⟨rfl, unknown, same⟩ | ⟨counter, found, same⟩
    · rw [same, unknown]
    · rw [same]
      rcases found with rfl | ⟨rfl, made⟩
      · simp
      · simp [made]

/-- A counter keeps its bounds. -/
theorem bounds_of_after {last : CyclicCounter} {requests : List Request}
    (reached : after (some counter) requests = some last) : last.bounds = counter.bounds := by
  have same := bounds_after (some counter) requests
  rw [reached] at same
  exact Option.some.inj same

/-- Requests that leave the values to a counter keep it between its bounds. -/
theorem Within.after {state : Option CyclicCounter} {requests : List Request}
    (inside : Within state) (free : ∀ request ∈ requests, request.IsFree) :
    Within (after state requests) := by
  -- The invariant is carried from one request to the next.
  induction requests generalizing state with
  | nil => exact inside
  | cons request later ih =>
    rw [List.forall_mem_cons] at free
    exact ih (inside.step free.1) free.2

/-- A counter that gets no other values than its own gives integers between its bounds only. -/
theorem Within.of_mem_given {state : Option CyclicCounter} (inside : Within state)
    {requests : List Request} (free : ∀ request ∈ requests, request.IsFree)
    {last : CyclicCounter} (reached : CyclicCounter.after state requests = some last) {value : Int}
    (member : value ∈ given state requests) : last.least ≤ value ∧ value ≤ last.greatest := by
  -- The induction is over the requests, with the counter between its bounds before each of them.
  induction requests generalizing state with
  | nil => cases member
  | cons request later ih =>
    rw [List.forall_mem_cons] at free
    have further := inside.step free.1
    rw [given_cons, List.mem_append] at member
    rw [CyclicCounter.after, List.foldl_cons, ← CyclicCounter.after] at reached
    rcases member with first | rest
    · rcases step_cases state request with ⟨_, _, same⟩ | ⟨counter, found, same⟩
      · simp [same, Answer.value?] at first
      · obtain ⟨formed, above, _⟩ := inside.start found
        obtain ⟨_, nonempty, within⟩ := formed
        rw [same] at reached first
        -- The bounds are the same in the end.
        obtain ⟨least, greatest⟩ := Prod.mk.inj (bounds_of_after reached)
        have bounds := Prod.mk.inj (bounds_obey counter request.order)
        rw [least, greatest, bounds.1, bounds.2]
        rcases counter.obey_cases free.1 with ⟨_, obeyed⟩ | ⟨_, obeyed⟩ | ⟨silent, _⟩
        · obtain rfl : value = counter.next := by simpa [obeyed, Answer.value?] using first
          exact ⟨above, within⟩
        · obtain rfl : value = counter.least := by simpa [obeyed, Answer.value?] using first
          exact ⟨Int.le_refl _, Int.le_of_lt nonempty⟩
        · simp [silent] at first
    · exact ih further free.2 reached rest

/-- While a counter does not start over on demand and gets no other values, the integers that it
gives go around the circle. -/
theorem Within.given_getElem? {state : Option CyclicCounter} (inside : Within state)
    {requests : List Request}
    (counting : ∀ request ∈ requests, request.IsFree ∧ request.order ≠ .restart)
    {last : CyclicCounter} (reached : CyclicCounter.after state requests = some last) {i : Nat}
    {value : Int} (found : (given state requests)[i]? = some value) :
    value = last.least + (turned state + i) % last.period := by
  -- The induction is over the requests, and the position is counted from where the counter is.
  induction requests generalizing state i with
  | nil => cases found
  | cons request later ih =>
    rw [List.forall_mem_cons] at counting
    obtain ⟨⟨free, continued⟩, counting⟩ := counting
    have further := inside.step free
    rw [given_cons] at found
    rw [CyclicCounter.after, List.foldl_cons, ← CyclicCounter.after] at reached
    rcases step_cases state request with ⟨rfl, _, same⟩ | ⟨counter, start, same⟩
    · -- Nothing is given without bounds.
      rw [same] at reached found further
      exact ih further counting reached found
    · obtain ⟨formed, above, begun⟩ := inside.start start
      rw [same] at reached found further
      obtain ⟨least, greatest⟩ := Prod.mk.inj (bounds_of_after reached)
      have bounds := Prod.mk.inj (bounds_obey counter request.order)
      have period : last.period = counter.period := by
        simp only [CyclicCounter.period, least, greatest, bounds.1, bounds.2]
      rcases counter.obey_cases free with ⟨_, obeyed⟩ | ⟨again, _⟩ | ⟨silent, unchanged⟩
      · rw [obeyed] at reached found further
        cases i with
        | zero =>
          -- The first integer is the next value, which is less than a period from the least one.
          obtain rfl : counter.next = value := by simpa [Answer.value?] using found
          have small : (counter.next - counter.least) % counter.period =
              counter.next - counter.least := by
            have within := formed.within
            unfold CyclicCounter.period
            exact Int.emod_eq_of_lt (by omega) (by omega)
          rw [begun, period, Int.natCast_zero, Int.add_zero, small, least, bounds.1]
          omega
        | succ i =>
          -- The later integers start one further around the circle.
          have rest := ih further counting reached (by simpa [Answer.value?] using found)
          have advanced := turned_advance formed above
          rw [rest, period, advanced, Int.emod_add_emod, begun]
          congr 2
          simp only [turned]
          push_cast
          omega
      · exact absurd again continued
      · -- Without an integer the counter has not turned.
        rw [silent] at found
        rw [unchanged] at reached found further
        have rest := ih further counting reached (by simpa using found)
        rw [rest, begun]
        rfl

end Run

end CyclicCounter

end Reshape
