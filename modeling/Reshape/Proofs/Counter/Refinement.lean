import Reshape.Proofs.Counter.Node

/-!
Counters refine cyclic counters: the calls of a counter, in any contexts and memories, give what a
cyclic counter answers to the requests of the calls. A call whose override gives nothing is a peek,
and shows the value that the tally keeps. This is the value of the last call that gave one, unless
that call has counted to the greatest value: then the tally has started over already, and keeps one
less than the least value.
-/

namespace Reshape

open CyclicCounter (Answer Request after answers given turned)

/-- What a call gives reports the answer of a counter: an integer as it is. -/
inductive CyclicCounter.Answer.Reports : Answer → Except Error Value → Prop where
  | gives (value : Int64) : Reports (.gives value.toInt) (.ok (.int value))
  | shows (value : Int64) : Reports .shows (.ok (.int value))
  | fails (error : Error) : Reports .fails (.error error)

/-- What a call has kept stands for a counter. -/
inductive Cell.Stands : Option Cell → Option CyclicCounter → Prop where
  | none : Stands none none
  | tally {tally : Tally} (sound : tally.Sound) : Stands (some (.tally tally)) (some tally.counter)

/-- What an answer allows for is reported: nothing is lost when an integer is written with 64
bits. -/
theorem CyclicCounter.Answer.Allows.reports {answer : Answer} {integer : Option Int}
    {result : Except Error Value} (allowed : answer.Allows integer)
    (yields : Tally.Yields integer result) : answer.Reports result := by
  -- A value has been given for an integer, and an error where there was none.
  cases yields with
  | value value =>
    cases allowed with
    | gives fits =>
      have reported := Answer.Reports.gives (Int64.ofInt value)
      rwa [Tally.toInt_ofInt fits] at reported
    | shows => exact .shows _
  | failure error =>
    cases allowed with
    | fails => exact .fails error

/-- A cell stands for what its tally stands for. -/
theorem Cell.stands_iff {found : Option Cell} {state : Option CyclicCounter} :
    Cell.Stands found state ↔ ∃ tallied : Option Tally, found = tallied.map .tally ∧
      (∀ tally ∈ tallied, tally.Sound) ∧ state = tallied.map Tally.counter := by
  -- There is a tally on both sides or on none.
  constructor
  · rintro (_ | sound)
    · exact ⟨none, rfl, fun _ none => (nomatch none), rfl⟩
    · exact ⟨some _, rfl, fun _ same => Option.some.inj same ▸ sound, rfl⟩
  · rintro ⟨_ | tally, rfl, sound, rfl⟩
    · exact .none
    · exact .tally (sound tally rfl)

namespace Counter

/-- What calls ask of their counter, one after the other. -/
def requests (counter : Counter) (site : Site) (turns : List Turn) : List Request :=
  turns.map (counter.request site)

/-- Calls of a counter, from the first one on, follow a cyclic counter. -/
structure Follows (counter : Counter) (site : Site) (turns : List Turn) (left : Option Cell) :
    Prop where
  /-- Each call reports what the cyclic counter answers to its request. -/
  reports : List.Forall₂ Answer.Reports (answers none (counter.requests site turns))
    (turns.map Turn.result)
  /-- What is left in the cell stands for the cyclic counter, within 64 bits. -/
  stands : Cell.Stands left (after none (counter.requests site turns))
  /-- The bounds are the first valid ones that a call has given. -/
  settled : (after none (counter.requests site turns)).map CyclicCounter.bounds =
    ((counter.requests site turns).findSome? Request.valid?).map CyclicCounter.bounds
  /-- Bounds are never changed. -/
  fixed : ∀ earlier later, counter.requests site turns = earlier ++ later →
    ∀ cyclic ∈ after none earlier,
      (after none (counter.requests site turns)).map CyclicCounter.bounds = some cyclic.bounds
  /-- Without integer overrides, every integer that is counted is between the bounds. -/
  between : (∀ request ∈ counter.requests site turns, request.IsFree) →
    ∀ last ∈ after none (counter.requests site turns),
      ∀ value ∈ given none (counter.requests site turns),
        last.least ≤ value ∧ value ≤ last.greatest
  /-- Without integer overrides, the integers that are counted go around the circle of all integers
  between the bounds, from any call on up to the next one that starts over. -/
  circles : (∀ request ∈ counter.requests site turns, request.IsFree) →
    ∀ earlier later, counter.requests site turns = earlier ++ later →
      (∀ request ∈ later, request.order ≠ .restart) →
        ∀ last ∈ after none (counter.requests site turns), ∀ (i : Nat) (value : Int),
          (given (after none earlier) later)[i]? = some value →
            value = last.least + (turned (after none earlier) + i) % last.period

variable (counter : Counter) (site : Site)

/-- A call of a counter is a step of the cyclic counter that its cell stands for. -/
theorem stands_turn {found : Option Cell} {state : Option CyclicCounter}
    (stands : Cell.Stands found state) (occasion : Occasion) :
    let turn := (counter.query site).turn site found occasion
    let stepped := CyclicCounter.step state (counter.request site turn)
    Answer.Reports stepped.1 turn.result ∧ Cell.Stands turn.left stepped.2 := by
  obtain ⟨tallied, rfl, sound, rfl⟩ := Cell.stands_iff.1 stands
  obtain ⟨yields, kept⟩ := counter.ends_turn site tallied occasion
  have integers := counter.integers_of_request site
    ((counter.query site).turn site (tallied.map .tally) occasion)
  -- The tally of the call is a step further, and so is the counter that it stands for.
  obtain ⟨after, refined, allowed⟩ := Tally.step_refines sound integers
  exact ⟨allowed.reports yields, Cell.stands_iff.2 ⟨_, kept, after, refined.symm⟩⟩

/-- The calls of a counter report what the cyclic counter that its cell stands for answers. -/
theorem stands_history {found : Option Cell} {state : Option CyclicCounter}
    (stands : Cell.Stands found state) (occasions : List Occasion) :
    let requests := counter.requests site ((counter.query site).history site found occasions)
    List.Forall₂ Answer.Reports (answers state requests)
        (((counter.query site).history site found occasions).map Turn.result) ∧
      Cell.Stands ((counter.query site).left site found occasions) (after state requests) := by
  -- One call is one step, and the later calls start from what it leaves.
  induction occasions generalizing found state with
  | nil => exact ⟨.nil, stands⟩
  | cons occasion later ih =>
    obtain ⟨reported, reached⟩ := counter.stands_turn site stands occasion
    obtain ⟨rest, left⟩ := ih reached
    exact ⟨.cons reported rest, left⟩

/-- The calls of a counter follow a cyclic counter. -/
theorem follows_history (occasions : List Occasion) :
    counter.Follows site ((counter.query site).history site none occasions)
      ((counter.query site).left site none occasions) := by
  obtain ⟨reports, stands⟩ := counter.stands_history site .none occasions
  -- Before the first call there is no counter that could be out of its bounds.
  have start : CyclicCounter.Within none := fun _ none => nomatch none
  refine ⟨reports, stands, CyclicCounter.bounds_after none _, ?_, ?_, ?_⟩
  · intro earlier later split cyclic reached
    rw [split, CyclicCounter.after_append, reached]
    exact CyclicCounter.bounds_after (some cyclic) later
  · exact fun free last reached value member => start.of_mem_given free reached member
  · intro free earlier later split continued last reached i value found
    rw [split] at free reached
    rw [CyclicCounter.after_append] at reached
    have inside := start.after fun request member => free request (List.mem_append_left _ member)
    refine inside.given_getElem? (fun request member => ⟨?_, continued request member⟩) reached found
    exact free request (List.mem_append_right _ member)

/-- Every counter that can be compiled refines a cyclic counter: whatever the contexts and memories
of its calls and whatever its override gives, the calls follow the cyclic counter. -/
theorem follows_of_bindSlots {arguments : List (Argument Expr)} {slots : List (Slot Expr)}
    (bound : Function.counter.signature.bindSlots arguments = .ok slots) :
    ∃ counter : Counter, slots = counter.slots ∧ ∀ site occasions,
      counter.Follows site
        (((Expr.call .counter slots).denote site).history site none occasions)
        (((Expr.call .counter slots).denote site).left site none occasions) := by
  obtain ⟨counter, rfl⟩ := eq_slots_of_bindSlots bound
  exact ⟨counter, rfl, counter.follows_history⟩

section Sample

/-- The override of a counter that counts, except where the field `peek` is set. -/
def peekOnDemand : Expr :=
  .branches [(.binary .equal (.field .current ["peek"]) (.literal (.bool true)),
    .call .nothing [])] (some (.literal .null))

/-- The arguments of
`counter(min: 1, max: 2, set: if this.peek == true { nothing() } else { null })`. -/
def peekingArguments : List (Argument Expr) :=
  [⟨some "min", .literal (.int 1)⟩, ⟨some "max", .literal (.int 2)⟩, ⟨some "set", peekOnDemand⟩]

/-- The counter that these arguments make. -/
def peeking : Counter := ⟨.literal (.int 1), .literal (.int 2), some peekOnDemand⟩

/-- The counter from one to two follows a cyclic counter. -/
theorem follows_of_bindSlots_of_peeking :
    Function.counter.signature.bindSlots peekingArguments = .ok peeking.slots ∧
      ∃ counter : Counter, peeking.slots = counter.slots ∧ ∀ site occasions,
        counter.Follows site
          (((Expr.call .counter peeking.slots).denote site).history site none occasions)
          (((Expr.call .counter peeking.slots).denote site).left site none occasions) := by
  have bound : Function.counter.signature.bindSlots peekingArguments = .ok peeking.slots := rfl
  exact ⟨bound, follows_of_bindSlots bound⟩

end Sample

end Counter

namespace Tally

/-- An answer that allows for an integer allows for one of 64 bits. -/
theorem fits_of_allows {answer : Answer} {value : Int} (allowed : answer.Allows (some value)) :
    Fits value := by
  cases allowed with
  | gives fits => exact fits
  | shows fits => exact fits

/-- Integers of 64 bits are equal if they are written equally. -/
theorem ofInt_inj {value other : Int} (fits : Fits value) (others : Fits other)
    (same : Int64.ofInt value = Int64.ofInt other) : value = other := by
  rw [← toInt_ofInt fits, ← toInt_ofInt others, same]

/-- What a sound tally keeps is what it has given, unless it has counted to the greatest value. -/
theorem Sound.current_obey {tally : Tally} (sound : tally.Sound) {order : CyclicCounter.Order}
    {value : Int} (gave : (tally.obey order).1 = some value) :
    (tally.obey order).2.current =
      if order = .count ∧ value = tally.greatest then tally.least - 1 else value := by
  have nonempty : tally.least < tally.greatest := sound.nonempty
  cases order with
  | count =>
    obtain rfl : tally.next.1 = value := Option.some.inj gave
    simp only [Tally.obey, Tally.next, true_and]
    -- A value below the greatest one is kept, and after the greatest one the tally starts over.
    by_cases below : tally.current + 1 < tally.greatest
    · have apart : tally.current + 1 ≠ tally.greatest := by omega
      simp only [if_pos below, if_neg apart]
    · simp only [if_neg below, if_true, Tally.restarted]
  | restart =>
    obtain rfl : tally.restarted.next.1 = value := Option.some.inj gave
    -- The least value is never the greatest one.
    simp [Tally.obey, Tally.next, Tally.restarted, nonempty]
  | replace other =>
    obtain rfl : other.toInt = value := Option.some.inj gave
    simp [Tally.obey]
  | peek =>
    obtain rfl : tally.current = value := Option.some.inj gave
    simp [Tally.obey]
  | refuse => cases gave

/-- No order changes the bounds of a tally. -/
theorem bounds_obey (tally : Tally) (order : CyclicCounter.Order) :
    (tally.obey order).2.least = tally.least ∧
      (tally.obey order).2.greatest = tally.greatest := by
  -- Counting changes what is kept only, also if the tally starts over.
  cases order with
  | count =>
    simp only [obey, Tally.next]
    split <;> exact ⟨rfl, rfl⟩
  | restart =>
    simp only [obey, Tally.next]
    split <;> exact ⟨rfl, rfl⟩
  | _ => exact ⟨rfl, rfl⟩

/-- A request that is answered with an integer leaves a tally that keeps it, unless it has counted
to the greatest value. -/
theorem current_step {state : Option Tally} (sound : ∀ tally ∈ state, tally.Sound)
    {request : Request}
    (integers : ∀ bounds ∈ request.bounds, ∃ least greatest : Int64,
      bounds = (least.toInt, greatest.toInt))
    {value : Int} (gave : (step state request).1 = some value) :
    Fits value ∧ ∃ tally, (step state request).2 = some tally ∧ tally.Sound ∧
      tally.current =
        if request.order = .count ∧ value = tally.greatest then tally.least - 1 else value := by
  obtain ⟨after, _, allowed⟩ := step_refines sound integers
  rw [gave] at allowed
  refine ⟨fits_of_allows allowed, ?_⟩
  -- The tally that was asked is sound: it was there, or it has been made of valid bounds.
  have asked : ∀ tally ∈ state.or (ofRequest? request), tally.Sound := by
    intro tally used
    cases state with
    | some kept => exact sound tally used
    | none =>
      rcases ofRequest?_cases integers with ⟨made, same, valid, _⟩ | ⟨unmade, _⟩
      · obtain rfl : made = tally := Option.some.inj (same.symm.trans used)
        exact valid
      · cases unmade.symm.trans used
  unfold step at gave after ⊢
  cases used : state.or (ofRequest? request) with
  | none => simp [used] at gave
  | some tally =>
    simp only [used] at gave after ⊢
    obtain ⟨least, greatest⟩ := tally.bounds_obey request.order
    refine ⟨_, rfl, after _ rfl, ?_⟩
    rw [least, greatest]
    exact (asked tally used).current_obey gave

end Tally

namespace Counter

variable {counter : Counter} {site : Site}

/-- A call has counted to the greatest value of a cyclic counter. -/
def Completes (counter : Counter) (site : Site) (cyclic : CyclicCounter) (turn : Turn) : Prop :=
  (counter.request site turn).order = .count ∧
    turn.result = .ok (.int (Int64.ofInt cyclic.greatest))

/-- Calls that fail leave the tally that they have found. -/
theorem left_of_failing {tally : Tally} {occasions : List Occasion}
    (failed : ∀ turn ∈ (counter.query site).history site (some (.tally tally)) occasions,
      ∃ error, turn.result = .error error) :
    (counter.query site).left site (some (.tally tally)) occasions = some (.tally tally) := by
  induction occasions with
  | nil => rfl
  | cons occasion later ih =>
    rw [Query.history, List.forall_mem_cons] at failed
    obtain ⟨⟨error, first⟩, others⟩ := failed
    have same : ((counter.query site).turn site (some (.tally tally)) occasion).left =
        some (.tally tally) := counter.left_of_error site (some tally) occasion first
    -- The later calls find the tally again.
    rw [same] at others
    change (counter.query site).left site
      ((counter.query site).turn site (some (.tally tally)) occasion).left later = _
    rw [same]
    exact ih others

/-- A call that gives a value leaves a sound tally, which keeps this value unless the call has
counted to the greatest one. -/
theorem current_of_ok {state : Option Tally} (sound : ∀ tally ∈ state, tally.Sound)
    {occasion : Occasion} {value : Value}
    (gave : ((counter.query site).turn site (state.map .tally) occasion).result = .ok value) :
    let turn := (counter.query site).turn site (state.map .tally) occasion
    ∃ integer tally, value = .int (Int64.ofInt integer) ∧ Tally.Fits integer ∧ tally.Sound ∧
      (Tally.step state (counter.request site turn)).2 = some tally ∧
        turn.left = some (.tally tally) ∧
          tally.current =
            if (counter.request site turn).order = .count ∧ integer = tally.greatest then
              tally.least - 1
            else integer := by
  intro turn
  obtain ⟨yields, kept⟩ := counter.ends_turn site state occasion
  rw [gave] at yields
  -- The value is an integer that the tally has given.
  generalize given : (Tally.step state _).1 = stepped at yields
  cases yields with
  | value integer =>
    have integers := counter.integers_of_request site turn
    obtain ⟨fits, tally, reached, formed, current⟩ := Tally.current_step sound integers given
    refine ⟨integer, tally, rfl, fits, formed, reached, ?_, current⟩
    rw [kept, reached]
    rfl

/-- A call has counted to the greatest value if its tally has given it. -/
theorem completes_iff {tally : Tally} (sound : tally.Sound) {integer : Int}
    (fits : Tally.Fits integer) {turn : Turn}
    (gave : turn.result = .ok (.int (Int64.ofInt integer))) :
    counter.Completes site tally.counter turn ↔
      (counter.request site turn).order = .count ∧ integer = tally.greatest := by
  -- The greatest value is written as no other integer of 64 bits.
  have same : turn.result = .ok (.int (Int64.ofInt tally.greatest)) ↔ integer = tally.greatest := by
    rw [gave]
    constructor
    · intro equal
      exact Tally.ofInt_inj fits sound.greatest (Value.int.inj (Except.ok.inj equal))
    · rintro rfl
      rfl
  unfold Completes
  rw [Tally.counter, same]

/-- A call whose override gives nothing shows what its tally keeps. -/
theorem shown_of_peek {tally : Tally} {occasion : Occasion}
    (peeks : (counter.request site
      ((counter.query site).turn site (some (.tally tally)) occasion)).order = .peek) :
    ((counter.query site).turn site (some (.tally tally)) occasion).result =
      .ok (.int (Int64.ofInt tally.current)) := by
  obtain ⟨yields, _⟩ := counter.ends_turn site (some tally) occasion
  -- The tally is asked for an integer, and gives the one that it keeps.
  rw [Option.map_some, Tally.step, Option.some_or] at yields
  simp only [peeks, Tally.obey] at yields
  generalize ((counter.query site).turn site _ occasion).result = result at yields
  cases yields with
  | value => rfl

/-- A call whose override gives nothing shows the value of the last call that gave one, exactly if
that call has not counted to the greatest value. If it has, one less than the least value is
shown. -/
theorem shows_last_iff (counter : Counter) {site : Site} {occasions : List Occasion}
    {earlier failing later : List Turn} {recent peek : Turn} {value : Value}
    (happened : (counter.query site).history site none occasions =
      earlier ++ recent :: (failing ++ peek :: later))
    (gave : recent.result = .ok value)
    (failed : ∀ turn ∈ failing, ∃ error, turn.result = .error error)
    (peeks : (counter.request site peek).order = .peek) :
    ∃ cyclic ∈ after none (counter.requests site (earlier ++ [recent])),
      (peek.result = .ok value ↔ ¬counter.Completes site cyclic recent) ∧
        (counter.Completes site cyclic recent →
          peek.result = .ok (.int (Int64.ofInt (cyclic.least - 1)))) := by
  -- Each call is made on its occasion, and finds what the calls before it have left.
  obtain ⟨first, others, rfl, rfl, next⟩ := Query.history_eq_append happened
  obtain ⟨occasion, others, rfl, rfl, between⟩ := Query.history_eq_cons next
  obtain ⟨idle, others, rfl, rfl, final⟩ := Query.history_eq_append between
  obtain ⟨last, others, rfl, rfl, rfl⟩ := Query.history_eq_cons final
  clear happened next between final
  obtain ⟨_, stands⟩ := counter.stands_history site .none first
  obtain ⟨state, found, sound, reached⟩ := Cell.stands_iff.1 stands
  rw [found] at gave failed peeks ⊢
  obtain ⟨integer, tally, rfl, fits, formed, stepped, left, current⟩ := current_of_ok sound gave
  -- The calls that fail in between leave the tally to the peek.
  rw [left] at failed peeks ⊢
  rw [left_of_failing failed] at peeks ⊢
  have cyclic : tally.counter ∈ after none (counter.requests site
      ((counter.query site).history site none first ++
        [(counter.query site).turn site (state.map .tally) occasion])) := by
    have integers := counter.integers_of_request site
      ((counter.query site).turn site (state.map .tally) occasion)
    obtain ⟨_, refined, _⟩ := Tally.step_refines sound integers
    rw [requests, List.map_append, CyclicCounter.after_append, ← requests, reached]
    rw [stepped] at refined
    exact refined.symm
  refine ⟨tally.counter, cyclic, ?_⟩
  rw [completes_iff formed fits gave, shown_of_peek peeks, current]
  -- One less than the least value is not the greatest one, also when both are written.
  by_cases completed : (counter.request site
      ((counter.query site).turn site (state.map .tally) occasion)).order = .count ∧
        integer = tally.greatest
  · rw [if_pos completed]
    have nonempty : tally.least < tally.greatest := formed.nonempty
    have least : Tally.Fits (tally.least - 1) := by
      have nonnegative : 0 ≤ tally.least := formed.nonnegative
      obtain ⟨_, below⟩ := formed.greatest
      constructor <;> omega
    have apart : tally.least - 1 ≠ integer := by
      obtain ⟨_, rfl⟩ := completed
      omega
    refine ⟨iff_of_false ?_ (not_not_intro completed), fun _ => rfl⟩
    intro same
    exact apart (Tally.ofInt_inj least fits (Value.int.inj (Except.ok.inj same)))
  · rw [if_neg completed]
    exact ⟨iff_of_true rfl completed, fun counted => absurd counted completed⟩

section Sample

/-- Two messages that are counted, and one that asks for the last value. -/
def countedAndPeeked : List Occasion :=
  [.ofValue (.object []), .ofValue (.object []), .ofValue (.object [("peek", .bool true)])]

/-- The counter from one to two has counted to the greatest value when it is asked for the last
one. -/
theorem shows_last_iff_of_peeking :
    ∃ first second peek,
      (peeking.query []).history [] none countedAndPeeked = [first] ++ second :: ([] ++ peek :: []) ∧
        second.result = .ok (.int 2) ∧
          (∀ turn ∈ ([] : List Turn), ∃ error, turn.result = .error error) ∧
            (peeking.request [] peek).order = .peek ∧
              ∃ cyclic ∈ after none (peeking.requests [] ([first] ++ [second])),
                (peek.result = .ok (.int 2) ↔ ¬peeking.Completes [] cyclic second) ∧
                  (peeking.Completes [] cyclic second →
                    peek.result = .ok (.int (Int64.ofInt (cyclic.least - 1)))) := by
  have idle : ∀ turn ∈ ([] : List Turn), ∃ error, turn.result = .error error :=
    fun _ member => nomatch member
  -- The history has three calls, and none between the second one and the peek.
  refine ⟨_, _, _, rfl, rfl, idle, rfl, ?_⟩
  have happened : (peeking.query []).history [] none countedAndPeeked = [_] ++ _ :: ([] ++ _ :: []) :=
    rfl
  exact shows_last_iff peeking happened rfl idle rfl

/-- A call whose override gives nothing does not always show the last value: after two, the counter
from one to two shows zero. -/
theorem not_shows_last :
    Function.counter.signature.bindSlots peekingArguments = .ok peeking.slots ∧
      ((peeking.query []).history [] none countedAndPeeked).map Turn.result =
          [.ok (.int 1), .ok (.int 2), .ok (.int 0)] ∧
        ¬∀ earlier recent failing peek later value,
          (peeking.query []).history [] none countedAndPeeked =
              earlier ++ recent :: (failing ++ peek :: later) →
            recent.result = .ok value →
              (∀ turn ∈ failing, ∃ error, turn.result = .error error) →
                (peeking.request [] peek).order = .peek → peek.result = .ok value := by
  refine ⟨rfl, rfl, ?_⟩
  intro shows
  -- The last call should show the two of the second one, but shows zero.
  have same := shows [_] _ [] _ [] _ rfl rfl (fun _ member => nomatch member) rfl
  have two : (2 : Int64) = 0 := (Value.int.inj (Except.ok.inj same)).symm
  exact absurd two (by decide)

end Sample

end Counter

end Reshape
