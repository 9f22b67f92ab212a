import Reshape.Proofs.Counter.Cycle

/-!
Tallies as cyclic counters. A tally keeps the value that it has given last; it stands for the cyclic
counter that gives the value after that one, and does on each request what this counter does.
-/

namespace Reshape

open CyclicCounter (Order Answer Request)

namespace Tally

/-- The cyclic counter that a tally stands for. -/
def counter (tally : Tally) : CyclicCounter :=
  ⟨tally.least, tally.greatest, min (tally.current + 1) tally.greatest⟩

/-- The integer that a tally gives on an order, if it gives one, and the tally after it. -/
def obey (tally : Tally) : Order → Option Int × Tally
  | .count => (some tally.next.1, tally.next.2)
  | .restart => (some tally.restarted.next.1, tally.restarted.next.2)
  | .replace value => (some value.toInt, { tally with current := value.toInt })
  | .peek => (some tally.current, tally)
  | .refuse => (none, tally)

/-- The tally that a request makes, if its bounds are valid. -/
def ofRequest? (request : Request) : Option Tally :=
  request.bounds.bind fun bounds => (between bounds.1 bounds.2).toOption

/-- What is done on a request: the integer that is given, if one is, and the tally after it, if
there is one. A tally that there is already is used. -/
def step (state : Option Tally) (request : Request) : Option Int × Option Tally :=
  match state.or (ofRequest? request) with
  | none => (none, none)
  | some tally => ((tally.obey request.order).1, some (tally.obey request.order).2)

/-- Without an integer that is given, nothing is done: the tally is the one that there was, or the
one that the request has made. -/
theorem step_of_none {state : Option Tally} {request : Request}
    (unanswered : (step state request).1 = none) :
    (step state request).2 = state.or (ofRequest? request) := by
  unfold step at unanswered ⊢
  generalize state.or (ofRequest? request) = used at unanswered ⊢
  cases used with
  | none => rfl
  | some tally =>
    -- Every order but a refusal is answered with an integer.
    dsimp only at unanswered ⊢
    cases wanted : request.order with
    | refuse => rfl
    | _ => simp [wanted, obey] at unanswered

/-- An integer fits into 64 bits. -/
def Fits (value : Int) : Prop := -0x8000000000000000 ≤ value ∧ value < 0x8000000000000000

/-- A tally is sound: its bounds are valid, and all that it keeps fits into 64 bits. -/
structure Sound (tally : Tally) : Prop where
  nonnegative : 0 ≤ tally.least
  nonempty : tally.least < tally.greatest
  greatest : Fits tally.greatest
  current : Fits tally.current

/-- Integers of 64 bits fit. -/
theorem fits_toInt (value : Int64) : Fits value.toInt :=
  ⟨value.le_toInt, value.toInt_lt⟩

/-- An integer that fits is kept as it is. -/
theorem toInt_ofInt {value : Int} (fits : Fits value) : (Int64.ofInt value).toInt = value :=
  Int64.toInt_ofInt_of_le fits.1 fits.2

end Tally

/-- An integer of 64 bits, or none, is what an answer of a counter allows for. -/
inductive CyclicCounter.Answer.Allows : Answer → Option Int → Prop where
  | gives {value : Int} (fits : Tally.Fits value) : Allows (.gives value) (some value)
  | shows {value : Int} (fits : Tally.Fits value) : Allows .shows (some value)
  | fails : Allows .fails none

namespace Tally

/-- Bounds that make a tally make a cyclic counter, and others make neither. -/
theorem between_cases (least greatest : Int64) :
    (∃ tally, between least.toInt greatest.toInt = .ok tally ∧ tally.Sound ∧
      CyclicCounter.between? (least.toInt, greatest.toInt) = some tally.counter) ∨
    (∃ fault, between least.toInt greatest.toInt = .error fault ∧
      CyclicCounter.between? (least.toInt, greatest.toInt) = none) := by
  have last := fits_toInt greatest
  unfold between CyclicCounter.between?
  -- The bounds are refused if the first one is negative, and if the second one is not above it.
  by_cases negative : least.toInt < 0
  · refine .inr ⟨_, by rw [if_pos negative], ?_⟩
    rw [if_neg (by omega)]
  by_cases empty : greatest.toInt ≤ least.toInt
  · refine .inr ⟨_, by rw [if_neg negative, if_pos empty], ?_⟩
    rw [if_neg (by omega)]
  · refine .inl ⟨_, by rw [if_neg negative, if_neg empty], ⟨?_, ?_, last, ?_⟩, ?_⟩
    · exact Int.not_lt.1 negative
    · exact Int.not_le.1 empty
    · obtain ⟨_, below⟩ := last
      constructor <;> dsimp only <;> omega
    · have first : min (least.toInt - 1 + 1) greatest.toInt = least.toInt := by omega
      rw [if_pos (by omega), counter, first]

variable {tally : Tally}

/-- A tally that starts over is sound. -/
theorem Sound.restarted (sound : tally.Sound) : tally.restarted.Sound := by
  obtain ⟨nonnegative, nonempty, greatest, _⟩ := sound
  refine ⟨nonnegative, nonempty, greatest, ?_⟩
  -- One less than a least value that is not negative still fits.
  obtain ⟨_, below⟩ := greatest
  constructor <;> simp only [Tally.restarted] <;> omega

/-- A tally that starts over stands for the counter whose next value is the least. -/
theorem Sound.counter_restarted (sound : tally.Sound) :
    tally.restarted.counter = { tally.counter with next := tally.least } := by
  have nonempty := sound.nonempty
  have first : min (tally.least - 1 + 1) tally.greatest = tally.least := by omega
  simp only [counter, Tally.restarted, first]

/-- A sound tally counts as the counter that it stands for. -/
theorem Sound.next (sound : tally.Sound) :
    Fits tally.next.1 ∧ tally.next.2.Sound ∧ tally.next.1 = tally.counter.next ∧
      tally.next.2.counter = tally.counter.advance := by
  obtain ⟨_, nonempty, greatest, current⟩ := id sound
  unfold Tally.next
  -- The counter starts over after the greatest value, and after any value beyond it.
  split
  next below =>
    have same : min (tally.current + 1) tally.greatest = tally.current + 1 := by omega
    have fits : Fits (tally.current + 1) := by
      obtain ⟨above, _⟩ := current
      obtain ⟨_, last⟩ := greatest
      constructor <;> omega
    refine ⟨fits, { sound with current := fits }, same.symm, ?_⟩
    have following : min (tally.current + 1 + 1) tally.greatest = tally.current + 1 + 1 := by omega
    simp only [counter, CyclicCounter.advance, same, following]
    rw [if_neg (by omega)]
  next above =>
    have same : min (tally.current + 1) tally.greatest = tally.greatest := by omega
    refine ⟨greatest, sound.restarted, same.symm, ?_⟩
    rw [sound.counter_restarted]
    simp only [counter, CyclicCounter.advance, same, if_true]

/-- A sound tally does on an order what the counter that it stands for does. -/
theorem Sound.obey (sound : tally.Sound) (order : Order) :
    (tally.obey order).2.Sound ∧
      (tally.obey order).2.counter = (tally.counter.obey order).2 ∧
        (tally.counter.obey order).1.Allows (tally.obey order).1 := by
  -- An order that counts does so from the tally itself, or from the tally before its first value.
  cases order with
  | count =>
    obtain ⟨fits, after, value, advanced⟩ := sound.next
    refine ⟨after, advanced, ?_⟩
    simp only [CyclicCounter.obey, Tally.obey, ← value]
    exact .gives fits
  | restart =>
    obtain ⟨fits, after, value, advanced⟩ := sound.restarted.next
    rw [sound.counter_restarted] at value advanced
    refine ⟨after, advanced, ?_⟩
    have least : tally.counter.least = tally.restarted.next.1 := value.symm
    simp only [CyclicCounter.obey, Tally.obey, least]
    exact .gives fits
  | replace value =>
    have fits := fits_toInt value
    exact ⟨{ sound with current := fits }, rfl, .gives fits⟩
  | peek => exact ⟨sound, rfl, .shows sound.current⟩
  | refuse => exact ⟨sound, rfl, .fails⟩

/-- A request makes a sound tally of bounds that make a counter, and none of others. -/
theorem ofRequest?_cases {request : Request}
    (integers : ∀ bounds ∈ request.bounds, ∃ least greatest : Int64,
      bounds = (least.toInt, greatest.toInt)) :
    (∃ tally, ofRequest? request = some tally ∧ tally.Sound ∧
      request.valid? = some tally.counter) ∨
    (ofRequest? request = none ∧ request.valid? = none) := by
  unfold ofRequest? Request.valid?
  -- Both sides check the same bounds.
  cases known : request.bounds with
  | none => exact .inr ⟨rfl, rfl⟩
  | some bounds =>
    obtain ⟨least, greatest, rfl⟩ := integers bounds known
    rcases between_cases least greatest with ⟨tally, made, sound, valid⟩ | ⟨fault, made, invalid⟩
    · exact .inl ⟨tally, by simp [made, Except.toOption], sound, valid⟩
    · exact .inr ⟨by simp [made, Except.toOption], invalid⟩

/-- What is done on a request with a sound tally, or without one, is a step of the counter that it
stands for. -/
theorem step_refines {state : Option Tally} (sound : ∀ tally ∈ state, tally.Sound)
    {request : Request}
    (integers : ∀ bounds ∈ request.bounds, ∃ least greatest : Int64,
      bounds = (least.toInt, greatest.toInt)) :
    (∀ tally ∈ (step state request).2, tally.Sound) ∧
      (step state request).2.map counter = (CyclicCounter.step (state.map counter) request).2 ∧
        (CyclicCounter.step (state.map counter) request).1.Allows (step state request).1 := by
  -- The tally is the one that there is, or the one that the request makes.
  have settled : (∃ tally, state.or (ofRequest? request) = some tally ∧ tally.Sound ∧
        (state.map counter).or request.valid? = some tally.counter) ∨
      (state.or (ofRequest? request) = none ∧ (state.map counter).or request.valid? = none) := by
    cases state with
    | some tally => exact .inl ⟨tally, rfl, sound tally rfl, rfl⟩
    | none => exact ofRequest?_cases integers
  unfold step CyclicCounter.step
  rcases settled with ⟨tally, used, sound, valid⟩ | ⟨unused, invalid⟩
  · rw [used, valid]
    obtain ⟨after, obeyed, allowed⟩ := sound.obey request.order
    refine ⟨?_, congrArg some obeyed, allowed⟩
    rintro _ ⟨⟩
    exact after
  · rw [unused, invalid]
    exact ⟨fun _ none => (nomatch none), rfl, Answer.Allows.fails⟩

end Tally

end Reshape
