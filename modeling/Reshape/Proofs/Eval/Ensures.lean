import Mathlib.Data.List.Forall2
import Reshape.Proofs.Eval.Collection

/-!
What evaluations ensure: their values have one property, and their errors another. Operations that
run a query for each element are written for any monad, and so are the lemmas about them.
-/

namespace Reshape

variable {ε φ α β : Type}

/-- An outcome is a value with one property or an error with another. -/
inductive Outcome.Ensures (values : α → Prop) (errors : ε → Prop) : Except ε α → Prop where
  | value {a : α} (holds : values a) : Ensures values errors (.ok a)
  | failure {error : ε} (reported : errors error) : Ensures values errors (.error error)

namespace Outcome.Ensures

variable {values : α → Prop} {results : β → Prop} {errors : ε → Prop}

/-- An outcome ensures what is weaker than what it ensures. -/
theorem mono {weaker : α → Prop} (weaken : ∀ a, values a → weaker a) {outcome : Except ε α}
    (ensures : Outcome.Ensures values errors outcome) : Outcome.Ensures weaker errors outcome := by
  cases ensures with
  | value holds => exact .value (weaken _ holds)
  | failure reported => exact .failure reported

/-- What follows an outcome is asked for values with its property only. -/
theorem bind {outcome : Except ε α} {next : α → Except ε β}
    (ensures : Outcome.Ensures values errors outcome)
    (follows : ∀ a, values a → Outcome.Ensures results errors (next a)) :
    Outcome.Ensures results errors (outcome >>= next) := by
  cases ensures with
  | value holds => exact follows _ holds
  | failure reported => exact .failure reported

/-- A function of what an outcome ensures. -/
theorem map {outcome : Except ε α} {change : α → β}
    (ensures : Outcome.Ensures values errors outcome)
    (follows : ∀ a, values a → results (change a)) :
    Outcome.Ensures results errors (outcome.map change) := by
  cases ensures with
  | value holds => exact .value (follows _ holds)
  | failure reported => exact .failure reported

/-- Errors that are changed have a property if all changed ones do. -/
theorem mapError {others : φ → Prop} {change : ε → φ} {outcome : Except ε α}
    (ensures : Outcome.Ensures values errors outcome)
    (follows : ∀ error, errors error → others (change error)) :
    Outcome.Ensures values others (outcome.mapError change) := by
  cases ensures with
  | value holds => exact .value holds
  | failure reported => exact .failure (follows _ reported)

/-- What an outcome gives has the property. -/
theorem of_ok {outcome : Except ε α} {a : α} (ensures : Outcome.Ensures values errors outcome)
    (given : outcome = .ok a) : values a := by
  subst given
  cases ensures with
  | value holds => exact holds

/-- What an outcome fails with has the property of errors. -/
theorem of_error {outcome : Except ε α} {error : ε}
    (ensures : Outcome.Ensures values errors outcome) (failed : outcome = .error error) :
    errors error := by
  subst failed
  cases ensures with
  | failure reported => exact reported

end Outcome.Ensures

namespace Eval

/-- An evaluation ensures from every memory that its value has one property and its error another. -/
def Ensures (values : α → Prop) (errors : Error → Prop) (action : Eval α) : Prop :=
  ∀ memory, Outcome.Ensures values errors (action.outcome memory).1

/-- An evaluation gives a value from some memory. -/
def Gives (action : Eval α) (a : α) : Prop :=
  ∃ memory, (action.outcome memory).1 = .ok a

namespace Ensures

variable {values : α → Prop} {results : β → Prop} {errors : Error → Prop}

/-- A value gives itself. -/
theorem pure {a : α} (holds : values a) : Eval.Ensures values errors (Pure.pure a) :=
  fun _ => .value holds

/-- A failure reports its error. -/
theorem failure {error : Error} (reported : errors error) :
    Eval.Ensures values errors (throw error) :=
  fun _ => .failure reported

/-- An evaluation ensures what is weaker than what it ensures. -/
theorem mono {weaker : α → Prop} (weaken : ∀ a, values a → weaker a) {action : Eval α}
    (ensures : Eval.Ensures values errors action) : Eval.Ensures weaker errors action :=
  fun memory => (ensures memory).mono weaken

/-- What follows an evaluation is asked for values with its property only. -/
theorem bind {action : Eval α} {next : α → Eval β} (ensures : Eval.Ensures values errors action)
    (follows : ∀ a, values a → Eval.Ensures results errors (next a)) :
    Eval.Ensures results errors (action >>= next) := by
  intro memory
  have first := ensures memory
  rw [outcome_bind]
  generalize action.outcome memory = outcome at first ⊢
  obtain ⟨outcome, after⟩ := outcome
  -- What follows starts from the memory that the first part leaves.
  cases first with
  | value holds => exact follows _ holds after
  | failure reported => exact .failure reported

/-- What an evaluation ensures holds of values that it does give. -/
theorem gives {action : Eval α} (ensures : Eval.Ensures values errors action) :
    Eval.Ensures (fun a => values a ∧ action.Gives a) errors action := by
  -- The memory from which it was run is the one from which it gives the value.
  intro memory
  have first := ensures memory
  cases given : (action.outcome memory).1 with
  | ok a =>
    rw [given] at first
    exact .value ⟨first.of_ok rfl, memory, given⟩
  | error error =>
    rw [given] at first
    exact .failure (first.of_error rfl)

/-- Errors that are changed have a property if all changed ones do. -/
theorem adapt {others : Error → Prop} {change : Error → Error} {action : Eval α}
    (ensures : Eval.Ensures values errors action)
    (follows : ∀ error, errors error → others (change error)) :
    Eval.Ensures values others (ExceptT.adapt change action) :=
  fun memory => (ensures memory).mapError follows

/-- An attempt does not fail, and gives what the evaluation ensures. -/
theorem attempt {others : Error → Prop} {action : Eval α}
    (ensures : Eval.Ensures values errors action) :
    Eval.Ensures (Outcome.Ensures (fun a => values a ∧ action.Gives a) errors) others
      action.attempt :=
  fun memory => .value (ensures.gives memory)

/-- An outcome ensures as an evaluation what it ensures. -/
theorem ofExcept {outcome : Except Error α} (ensures : Outcome.Ensures values errors outcome) :
    Eval.Ensures values errors (Eval.ofExcept outcome) := by
  cases ensures with
  | value holds => exact .pure holds
  | failure reported => exact .failure reported

/-- What follows a look at the memory is asked for every memory. -/
theorem memory {next : Memory → Eval β}
    (follows : ∀ memory, Eval.Ensures results errors (next memory)) :
    Eval.Ensures results errors (get >>= next) :=
  fun memory => follows memory memory

/-- What follows a condition ensures what both ways do. -/
theorem ite {condition : Eval Bool} {first second : Eval α} {truths : Bool → Prop}
    (ensures : Eval.Ensures truths errors condition) (holds : Eval.Ensures values errors first)
    (fails : Eval.Ensures values errors second) :
    Eval.Ensures values errors (do if ← condition then first else second) := by
  refine ensures.bind fun truth _ => ?_
  cases truth with
  | true => exact holds
  | false => exact fails

end Ensures

end Eval

/-- A way to say of computations what property their values have, which values and what follows a
computation respect. -/
structure Assertion (m : Type → Type) [Monad m] where
  Holds {α : Type} (values : α → Prop) (action : m α) : Prop
  pure {α : Type} {values : α → Prop} {a : α} (holds : values a) : Holds values (Pure.pure a)
  bind {α β : Type} {values : α → Prop} {results : β → Prop} {action : m α} {next : α → m β}
    (first : Holds values action) (follows : ∀ a, values a → Holds results (next a)) :
    Holds results (action >>= next)

/-- What outcomes ensure, their errors having a property. -/
def Assertion.outcome (errors : ε → Prop) : Assertion (Except ε) where
  Holds values := Outcome.Ensures values errors
  pure holds := .value holds
  bind first follows := first.bind follows

/-- What evaluations ensure, their errors having a property. -/
def Assertion.eval (errors : Error → Prop) : Assertion Eval where
  Holds values := Eval.Ensures values errors
  pure holds := .pure holds
  bind first follows := first.bind follows

/-- What an optional value is, if there is one. -/
def Assertion.option : Assertion Option where
  Holds values found := ∀ a ∈ found, values a
  pure holds := by
    rintro _ ⟨⟩
    exact holds
  bind first follows := by
    intro b given
    obtain ⟨a, known, given⟩ := Option.bind_eq_some_iff.1 given
    exact follows a (first a known) b given

namespace Assertion

variable {m : Type → Type} [Monad m] (assertion : Assertion m)

/-- Items that give related results one by one give a list of related results. -/
theorem mapM [LawfulMonad m] {values : α → β → Prop} {f : α → m β} (items : List α)
    (each : ∀ a ∈ items, assertion.Holds (values a) (f a)) :
    assertion.Holds (List.Forall₂ values items) (items.mapM f) := by
  induction items with
  | nil => exact assertion.pure .nil
  | cons item rest ih =>
    -- The rest is run from wherever the first item leaves the state.
    rw [List.mapM_cons]
    refine assertion.bind (each item (by simp)) fun first given => ?_
    refine assertion.bind (ih fun a member => each a (by simp [member])) fun later others => ?_
    exact assertion.pure (.cons given others)

/-- What items give, those left out that give nothing, has the property of what each gives. -/
theorem filterMapM [LawfulMonad m] {values : β → Prop} {f : α → m (Option β)} (items : List α)
    (each : ∀ a ∈ items, assertion.Holds (fun b => ∀ given ∈ b, values given) (f a)) :
    assertion.Holds (fun results => ∀ b ∈ results, values b) (items.filterMapM f) := by
  induction items with
  | nil => exact assertion.pure (by simp)
  | cons item rest ih =>
    have later := ih fun a member => each a (by simp [member])
    rw [List.filterMapM_cons]
    refine assertion.bind (each item (by simp)) fun first given => ?_
    cases first with
    -- What gives nothing adds nothing.
    | none => exact later
    | some b =>
      refine assertion.bind later fun others holds => ?_
      exact assertion.pure (by simpa using ⟨given b rfl, holds⟩)

/-- A search for a verdict that asks the items in order asks them only. -/
theorem searchM (verdict : Bool) {f : α → m Bool} (items : List α)
    (each : ∀ a ∈ items, assertion.Holds (fun _ => True) (f a)) :
    assertion.Holds (fun _ => True) (Collection.searchM verdict f items) := by
  induction items with
  | nil => exact assertion.pure trivial
  | cons item rest ih =>
    refine assertion.bind (each item (by simp)) fun given _ => ?_
    -- After the verdict no other item is asked for.
    split
    · exact assertion.pure trivial
    · exact ih fun a member => each a (by simp [member])

/-- What holds of a state with the items that are left holds of the last state with none left, if
each step keeps it. -/
theorem foldlM {motive : List α → β → Prop} {f : β → α → m β} (items : List α) (start : β)
    (first : motive items start)
    (step : ∀ b a rest, motive (a :: rest) b → assertion.Holds (motive rest) (f b a)) :
    assertion.Holds (motive []) (items.foldlM f start) := by
  induction items generalizing start with
  | nil => exact assertion.pure first
  | cons item rest ih =>
    rw [List.foldlM_cons]
    -- What a step establishes is what the items behind start from.
    refine assertion.bind (step start item rest first) fun next holds => ?_
    exact ih next holds

open Collection (mergeSorted sortItems)

/-- Merging two sequences compares their items only, and gives nothing else. -/
theorem mergeSorted {less : α → α → m Bool} {among : α → Prop}
    (each : ∀ a b, among a → among b → assertion.Holds (fun _ => True) (less a b))
    (left right : List α) (first : ∀ a ∈ left, among a) (second : ∀ b ∈ right, among b) :
    assertion.Holds (fun merged => ∀ a ∈ merged, among a) (mergeSorted less left right) := by
  -- One item of either sequence is taken at a time, as the recursion does.
  induction left, right using Collection.mergeSorted.induct with
  | case1 right => simpa only [Collection.mergeSorted] using assertion.pure second
  | case2 left nonempty =>
    rw [Collection.mergeSorted]
    · exact assertion.pure first
    · exact nonempty
  | case3 a left b right ahead behind =>
    rw [Collection.mergeSorted]
    have both := List.forall_mem_cons.1 first
    have others := List.forall_mem_cons.1 second
    refine assertion.bind (each b a others.1 both.1) fun less _ => ?_
    cases less with
    | true =>
      refine assertion.bind (ahead first others.2) fun rest holds => ?_
      exact assertion.pure (List.forall_mem_cons.2 ⟨others.1, holds⟩)
    | false =>
      refine assertion.bind (behind both.2 second) fun rest holds => ?_
      exact assertion.pure (List.forall_mem_cons.2 ⟨both.1, holds⟩)

/-- Sorting a sequence compares its items only, and gives nothing else. -/
theorem sortItems {less : α → α → m Bool} {among : α → Prop}
    (each : ∀ a b, among a → among b → assertion.Holds (fun _ => True) (less a b))
    (items : List α) (inside : ∀ a ∈ items, among a) :
    assertion.Holds (fun sorted => ∀ a ∈ sorted, among a) (sortItems less items) := by
  -- The halves are sorted first, and what they have in them is of the whole.
  induction items using Collection.sortItems.induct with
  | case1 items short =>
    rw [Collection.sortItems.eq_def, dif_pos short]
    exact assertion.pure inside
  | case2 items long left right =>
    rw [Collection.sortItems.eq_def, dif_neg long]
    refine assertion.bind (left fun a member => inside a (List.mem_of_mem_take member))
      fun low first => ?_
    refine assertion.bind (right fun a member => inside a (List.mem_of_mem_drop member))
      fun high second => ?_
    exact assertion.mergeSorted each low high first second

end Assertion

end Reshape
