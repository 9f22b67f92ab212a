import Reshape.Eval.Query

/-!
Agreement: two evaluations give related values or fail both, and leave related memories. What an
error says is not compared, as its text names the expressions that it passed through.
-/

namespace Reshape

variable {ε ε' φ φ' α β γ δ : Type}

/-- Two outcomes agree: they are related values, or both are errors. -/
inductive Outcome.Agree (values : α → β → Prop) : Except ε α → Except ε' β → Prop where
  | value {a : α} {b : β} (related : values a b) : Agree values (.ok a) (.ok b)
  | failure (first : ε) (second : ε') : Agree values (.error first) (.error second)

/-- What follows an outcome gives a value only after a value. -/
theorem Outcome.of_bind_eq_ok {outcome : Except ε α} {next : α → Except ε β} {b : β}
    (given : outcome >>= next = .ok b) : ∃ a, outcome = .ok a ∧ next a = .ok b := by
  -- An error would have been handed on.
  cases outcome with
  | ok a => exact ⟨a, rfl, given⟩
  | error error => cases given

/-- Another text for an error does not change a value. -/
theorem Outcome.mapError_ok (change : ε → φ) (a : α) :
    (Except.ok a : Except ε α).mapError change = .ok a := rfl

/-- Another text for an error makes another error. -/
theorem Outcome.mapError_error (change : ε → φ) (error : ε) :
    (Except.error error : Except ε α).mapError change = .error (change error) := rfl

namespace Outcome.Agree

variable {values : α → β → Prop} {results : γ → δ → Prop}

/-- An outcome agrees with itself. -/
theorem refl (outcome : Except ε α) : Outcome.Agree Eq outcome outcome := by
  cases outcome with
  | ok value => exact .value rfl
  | error fault => exact .failure fault fault

/-- Values that are related in one way and so in another agree in the other way. -/
theorem mono {weaker : α → β → Prop} (weaken : ∀ a b, values a b → weaker a b)
    {left : Except ε α} {right : Except ε' β} (agree : Outcome.Agree values left right) :
    Outcome.Agree weaker left right := by
  cases agree with
  | value related => exact .value (weaken _ _ related)
  | failure first second => exact .failure first second

/-- What follows agreeing outcomes agrees if it agrees for related values. -/
theorem bind {left : Except ε α} {right : Except ε' β} {next : α → Except ε γ}
    {next' : β → Except ε' δ} (agree : Outcome.Agree values left right)
    (follows : ∀ a b, values a b → Outcome.Agree results (next a) (next' b)) :
    Outcome.Agree results (left >>= next) (right >>= next') := by
  cases agree with
  | value related => exact follows _ _ related
  | failure first second => exact .failure first second

/-- What follows one outcome agrees if it does for each value. -/
theorem after (outcome : Except ε α) {next : α → Except ε γ} {next' : α → Except ε δ}
    (follows : ∀ a, Outcome.Agree results (next a) (next' a)) :
    Outcome.Agree results (outcome >>= next) (outcome >>= next') := by
  -- Both sides start from the same outcome.
  cases outcome with
  | ok value => exact follows value
  | error fault => exact .failure fault fault

/-- Agreement does not depend on what errors say. -/
theorem mapError (change : ε → φ) (change' : ε' → φ') {left : Except ε α} {right : Except ε' β}
    (agree : Outcome.Agree values left right) :
    Outcome.Agree values (left.mapError change) (right.mapError change') := by
  cases agree with
  | value related => exact .value related
  | failure first second => exact .failure _ _

/-- Values that agreeing outcomes give are related. -/
theorem related_of_ok {left : Except ε α} {right : Except ε' β} {a : α} {b : β}
    (agree : Outcome.Agree values left right) (first : left = .ok a) (second : right = .ok b) :
    values a b := by
  -- A failure on either side excludes the values given.
  cases agree with
  | value related =>
    cases first
    cases second
    exact related
  | failure _ _ => cases first

end Outcome.Agree

/-- Two outcomes match: if both are values, they are related. -/
def Outcome.Match (values : α → β → Prop) (left : Except ε α) (right : Except ε' β) : Prop :=
  ∀ a b, left = .ok a → right = .ok b → values a b

namespace Outcome.Match

variable {values : α → β → Prop} {results : γ → δ → Prop}

/-- Related values match. -/
theorem value {a : α} {b : β} (related : values a b) :
    Outcome.Match values (.ok a : Except ε α) (.ok b : Except ε' β) := by
  rintro _ _ ⟨⟩ ⟨⟩
  exact related

/-- A failure matches any outcome. -/
theorem failure (error : ε) (right : Except ε' β) : Outcome.Match values (.error error) right :=
  fun _ _ first => nomatch first

/-- Any outcome matches a failure. -/
theorem failure' (left : Except ε α) (error : ε') : Outcome.Match values left (.error error) :=
  fun _ _ _ second => nomatch second

/-- What follows matching outcomes matches if it does for related values. -/
theorem bind {left : Except ε α} {right : Except ε' β} {next : α → Except ε γ}
    {next' : β → Except ε' δ} (same : Outcome.Match values left right)
    (follows : ∀ a b, values a b → Outcome.Match results (next a) (next' b)) :
    Outcome.Match results (left >>= next) (right >>= next') := by
  -- Only if both sides give a value is there something that follows on both.
  cases left with
  | error error => exact failure error _
  | ok a =>
    cases right with
    | error error => exact failure' _ error
    | ok b => exact follows a b (same a b rfl rfl)

/-- Matching does not depend on what errors say. -/
theorem mapError (change : ε → φ) (change' : ε' → φ') {left : Except ε α} {right : Except ε' β}
    (same : Outcome.Match values left right) :
    -- What the errors say is not compared, so that changing them changes nothing.
    Outcome.Match values (left.mapError change) (right.mapError change') := by
  cases left with
  | error error => exact failure _ _
  | ok a =>
    cases right with
    | error error => exact failure' _ _
    | ok b => exact value (same a b rfl rfl)

end Outcome.Match

/-- Outcomes that agree match. -/
theorem Outcome.Agree.toMatch {values : α → β → Prop} {left : Except ε α} {right : Except ε' β}
    (agree : Outcome.Agree values left right) : Outcome.Match values left right :=
  fun _ _ first second => agree.related_of_ok first second

namespace Eval

/-- What an evaluation gives from a memory, and the memory that it leaves. -/
def outcome (action : Eval α) (memory : Memory) : Except Error α × Memory :=
  action.run.run memory

/-- A value leaves the memory as it is. -/
@[simp] theorem outcome_pure (value : α) (memory : Memory) :
    (pure value : Eval α).outcome memory = (.ok value, memory) := rfl

/-- An error leaves the memory as it is. -/
@[simp] theorem outcome_throw (error : Error) (memory : Memory) :
    (throw error : Eval α).outcome memory = (.error error, memory) := rfl

/-- An evaluation that follows another one starts from the memory that the first one leaves. -/
theorem outcome_bind (action : Eval α) (next : α → Eval β) (memory : Memory) :
    (action >>= next).outcome memory =
      match action.outcome memory with
      | (.ok value, after) => (next value).outcome after
      | (.error error, after) => (.error error, after) := by
  simp only [outcome, ExceptT.run_bind, StateT.run_bind]
  -- The first evaluation ends in a value or in an error, with a memory in either case.
  rcases action.run.run memory with ⟨value | error, after⟩ <;> rfl

/-- An evaluation that follows one that gives a value starts with that value. -/
theorem outcome_bind_of_ok {action : Eval α} {next : α → Eval β} {value : α}
    {memory after : Memory} (given : action.outcome memory = (.ok value, after)) :
    (action >>= next).outcome memory = (next value).outcome after := by
  rw [outcome_bind, given]

/-- Another text for an error changes neither the value nor the memory. -/
theorem outcome_adapt (change : Error → Error) (action : Eval α) (memory : Memory) :
    Eval.outcome (ExceptT.adapt change action) memory =
      ((action.outcome memory).1.mapError change, (action.outcome memory).2) := rfl

/-- Errors that are left as they are do not change an evaluation. -/
theorem adapt_id (action : Eval α) : ExceptT.adapt id action = action := by
  have same : Except.mapError id = (id : Except Error α → Except Error α) := by
    funext outcome
    cases outcome <;> rfl
  change ExceptT.mk (Except.mapError id <$> action.run) = action
  rw [same, id_map]
  rfl

/-- Two evaluations agree: from related memories they have agreeing outcomes and leave related
memories. -/
def Agree (memories : Memory → Memory → Prop) (values : α → β → Prop) (left : Eval α)
    (right : Eval β) : Prop :=
  ∀ ⦃before before' : Memory⦄, memories before before' →
    Outcome.Agree values (left.outcome before).1 (right.outcome before').1 ∧
      memories (left.outcome before).2 (right.outcome before').2

namespace Agree

variable {memories : Memory → Memory → Prop} {values : α → β → Prop} {results : γ → δ → Prop}

/-- An evaluation agrees with itself from equal memories. -/
theorem refl (action : Eval α) : Eval.Agree Eq Eq action action := by
  rintro before _ rfl
  exact ⟨.refl _, rfl⟩

/-- Related values agree. -/
theorem pure {a : α} {b : β} (related : values a b) :
    Eval.Agree memories values (Pure.pure a) (Pure.pure b) :=
  fun _ _ start => ⟨.value related, start⟩

/-- Failures agree. -/
theorem failure (first second : Error) :
    Eval.Agree memories values (throw first) (throw second) :=
  fun _ _ start => ⟨.failure first second, start⟩

/-- Values that are related in one way and so in another agree in the other way. -/
theorem mono {weaker : α → β → Prop} (weaken : ∀ a b, values a b → weaker a b)
    {left : Eval α} {right : Eval β} (agree : Eval.Agree memories values left right) :
    Eval.Agree memories weaker left right :=
  fun _ _ start => ⟨(agree start).1.mono weaken, (agree start).2⟩

/-- What follows agreeing evaluations agrees if it agrees for related values. -/
theorem bind {left : Eval α} {right : Eval β} {next : α → Eval γ} {next' : β → Eval δ}
    (agree : Eval.Agree memories values left right)
    (follows : ∀ a b, values a b → Eval.Agree memories results (next a) (next' b)) :
    Eval.Agree memories results (left >>= next) (right >>= next') := by
  intro before before' start
  obtain ⟨same, reached⟩ := agree start
  rw [outcome_bind, outcome_bind]
  generalize left.outcome before = first at same reached ⊢
  generalize right.outcome before' = second at same reached ⊢
  -- The first evaluations end alike, and what follows starts from the memories that they leave.
  obtain ⟨outcome, after⟩ := first
  obtain ⟨outcome', after'⟩ := second
  cases same with
  | value related => exact follows _ _ related reached
  | failure first second => exact ⟨.failure first second, reached⟩

/-- What follows evaluations that agree in equal values agrees if it does for each value. -/
theorem andThen {left right : Eval α} {next : α → Eval γ} {next' : α → Eval δ}
    (agree : Eval.Agree memories Eq left right)
    (follows : ∀ a, Eval.Agree memories results (next a) (next' a)) :
    Eval.Agree memories results (left >>= next) (right >>= next') := by
  refine agree.bind fun a b same => ?_
  rw [← same]
  exact follows a

/-- Evaluations that agree in equal values do so after a function of these. -/
theorem apply {left right : Eval α} (agree : Eval.Agree memories Eq left right)
    (change : α → γ) :
    Eval.Agree memories Eq (do return change (← left)) (do return change (← right)) :=
  agree.andThen fun _ => .pure rfl

/-- Agreeing evaluations agree after a function of what they give. -/
theorem map {left : Eval α} {right : Eval β} {change : α → γ} {change' : β → δ}
    (agree : Eval.Agree memories values left right)
    (follows : ∀ a b, values a b → results (change a) (change' b)) :
    Eval.Agree memories results (do return change (← left)) (do return change' (← right)) :=
  agree.bind fun _ _ related => .pure (follows _ _ related)

/-- Agreement does not depend on what errors say. -/
theorem adapt (change change' : Error → Error) {left : Eval α} {right : Eval β}
    (agree : Eval.Agree memories values left right) :
    Eval.Agree memories values (ExceptT.adapt change left) (ExceptT.adapt change' right) := by
  intro before before' start
  obtain ⟨same, reached⟩ := agree start
  -- Only what an error says is changed.
  rw [outcome_adapt, outcome_adapt]
  refine ⟨same.mapError change change', reached⟩

/-- Agreement does not depend on what the errors of one side say. -/
theorem adaptLeft (change : Error → Error) {left : Eval α} {right : Eval β}
    (agree : Eval.Agree memories values left right) :
    Eval.Agree memories values (ExceptT.adapt change left) right := by
  simpa only [adapt_id] using agree.adapt change id

/-- Agreement does not depend on what the errors of the other side say. -/
theorem adaptRight (change : Error → Error) {left : Eval α} {right : Eval β}
    (agree : Eval.Agree memories values left right) :
    Eval.Agree memories values left (ExceptT.adapt change right) := by
  simpa only [adapt_id] using agree.adapt id change

/-- Attempts of agreeing evaluations give agreeing outcomes. -/
theorem attempt {left : Eval α} {right : Eval β} (agree : Eval.Agree memories values left right) :
    Eval.Agree memories (Outcome.Agree values) left.attempt right.attempt :=
  fun _ _ start => ⟨.value (agree start).1, (agree start).2⟩

/-- Agreeing outcomes agree as evaluations. -/
theorem ofExcept {left : Except Error α} {right : Except Error β}
    (agree : Outcome.Agree values left right) :
    Eval.Agree memories values (Eval.ofExcept left) (Eval.ofExcept right) := by
  cases agree with
  | value related => exact .pure related
  | failure first second => exact .failure first second

/-- A condition that both evaluations give decides for both. -/
theorem ite {condition condition' : Eval Bool} {left other : Eval α} {right other' : Eval β}
    (agree : Eval.Agree memories Eq condition condition')
    (holds : Eval.Agree memories values left right)
    (fails : Eval.Agree memories values other other') :
    Eval.Agree memories values (do if ← condition then left else other)
      (do if ← condition' then right else other') := by
  refine agree.andThen fun truth => ?_
  -- The truth value is the same, so both sides take the same way.
  cases truth with
  | true => exact holds
  | false => exact fails

end Agree

end Eval

end Reshape
