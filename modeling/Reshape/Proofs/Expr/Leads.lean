import Mathlib.Data.List.Forall2
import Reshape.Proofs.Expr.Narrowed

/-!
Terms that lead to others: whatever the first is compiled to, the second is compiled to as well
where nothing stands around it. A term leads to the one that is left when its spans are changed and
the levels of nesting in it are taken out.
-/

namespace Reshape

namespace Compile

variable {α β : Type}

/-- A failure gives no result. -/
theorem Fails.ne {action : Compile α} (fails : Fails action) (warnings : List String) (a : α)
    (after : List String) : action.run.run warnings ≠ (.ok a, after) := by
  obtain ⟨error, after', gives⟩ := fails warnings
  rw [gives]
  rintro ⟨⟩

/-- Whatever result a compilation gives after some warnings, another one gives too. -/
def Implies (action other : Compile α) : Prop :=
  ∀ warnings a after, action.run.run warnings = (.ok a, after) →
    other.run.run warnings = (.ok a, after)

namespace Implies

/-- A compilation implies itself. -/
theorem refl (action : Compile α) : Implies action action :=
  fun _ _ _ given => given

/-- A failure implies anything. -/
theorem ofFails {action other : Compile α} (fails : Fails action) : Implies action other :=
  fun warnings a after given => absurd given (fails.ne warnings a after)

/-- What follows a result is implied if it is for each result. -/
theorem bind {action other : Compile α} (implies : Implies action other)
    {next next' : α → Compile β} (follows : ∀ a, Implies (next a) (next' a)) :
    Implies (action >>= next) (other >>= next') := by
  intro warnings b after given
  simp only [ExceptT.run_bind, StateT.run_bind] at given ⊢
  -- There is nothing to show unless the first compilation has a result.
  cases gives : action.run.run warnings with
  | mk outcome between =>
    rw [gives] at given
    cases outcome with
    | error error => cases given
    | ok a =>
      rw [implies warnings a between gives]
      exact follows a between b after given

/-- What is done with a result does not matter. -/
theorem andThen {action other : Compile α} (implies : Implies action other) (next : α → Compile β) :
    Implies (action >>= next) (other >>= next) :=
  implies.bind fun a => refl (next a)

/-- If a compilation has one result only, what follows is what follows that. -/
theorem bindPure {action : Compile α} {a : α} (implies : Implies action (pure a))
    {next : α → Compile β} {other : Compile β} (follows : Implies (next a) other) :
    Implies (action >>= next) other := by
  intro warnings b after given
  have gives := implies.andThen next warnings b after given
  rw [pure_bind] at gives
  exact follows warnings b after gives

/-- What errors say does not matter. -/
theorem adapt {action other : Compile α} (implies : Implies action other)
    (change change' : Error → Error) :
    Implies (ExceptT.adapt change action) (ExceptT.adapt change' other) := by
  intro warnings a after given
  change (Except.mapError change <$> action.run).run warnings = _ at given
  change (Except.mapError change' <$> other.run).run warnings = _
  rw [StateT.run_map] at given ⊢
  -- The change is taken off the outcome, and put on again on the other side.
  cases gives : action.run.run warnings with
  | mk outcome between =>
    rw [gives] at given
    cases outcome with
    | error error => cases given
    | ok found =>
      rw [implies warnings found between gives]
      exact given

/-- What follows an attempt is implied if only results are used. -/
theorem attempt {action other : Compile α} (implies : Implies action other)
    {next next' : Except Error α → Compile β} (fails : ∀ error, Fails (next (.error error)))
    (follows : ∀ a, Implies (next (.ok a)) (next' (.ok a))) :
    Implies (action.attempt >>= next) (other.attempt >>= next') := by
  intro warnings b after given
  rw [attempt_bind] at given ⊢
  -- Something comes after a failed attempt as well, but it has no result.
  cases gives : action.run.run warnings with
  | mk outcome between =>
    rw [gives] at given
    cases outcome with
    | error error => exact absurd given ((fails error).ne between b after)
    | ok a =>
      rw [implies warnings a between gives]
      exact follows a between b after given

end Implies

/-- A quoted string stands for the same text wherever it is. -/
theorem unquote_implies (span span' : Span) (text : String) :
    Implies (unquote span text) (unquote span' text) := by
  unfold unquote
  split
  · exact .refl _
  · exact .ofFails (fails_throw _)

end Compile

namespace Term

open Compile (Setting Implies)

/-- A term leads to another one: whatever it is compiled to, however deep it stands, the other one
is compiled to where nothing stands around it. -/
def Leads (term result : Term) : Prop :=
  ∀ environment depth lambdas, Implies (term.compile ⟨environment, depth, lambdas⟩)
    (result.compile ⟨environment, 0, lambdas⟩)

namespace Leads

variable {term result left right left' right' : Term}

/-- A term that is compiled alike at all depths leads to itself. -/
theorem flat (same : ∀ environment depth lambdas, term.compile ⟨environment, depth, lambdas⟩ =
    term.compile ⟨environment, 0, lambdas⟩) : Leads term term := by
  intro environment depth lambdas
  rw [same]
  exact .refl _

/-- Levels of nesting can be taken out. -/
theorem nested (leads : Leads term result) (span : Span) : Leads (.nested span term) result := by
  intro environment depth lambdas
  simp only [compile]
  -- Where the limit is exceeded there is no result to lead from.
  split
  · exact leads environment (depth + 1) lambdas
  · exact .ofFails (Compile.fails_throw _)

/-- A quoted string stands for the same text wherever it is. -/
theorem quoted (span span' : Span) (text : String) :
    Leads (.quoted span text) (.quoted span' text) :=
  fun _ _ _ => (Compile.unquote_implies span span' text).andThen _

/-- A sign before a term. -/
theorem signed (leads : Leads term result) (sign : PrefixSign) :
    Leads (.signed sign term) (.signed sign result) :=
  fun environment depth lambdas => (leads environment depth lambdas).andThen _

/-- A sign between two terms. -/
theorem binary (first : Leads left left') (second : Leads right right') (sign : Sign) :
    Leads (.binary sign left right) (.binary sign left' right') := by
  intro environment depth lambdas
  -- The error of the first operand is reported after the second one has been compiled.
  refine (first environment depth lambdas).attempt (fun error => ?_) fun left => ?_
  · exact .afterAttempt fun _ => (Compile.fails_throw error).bind _
  · refine (second environment depth lambdas).attempt (fun error => ?_) fun right => .refl _
    exact .after fun _ => (Compile.fails_throw error).bind _

/-- A part of a term; a segment in quotes stands for the same name wherever it is. -/
theorem field (leads : Leads term result) {segment segment' : Segment}
    (same : Implies (Compile.segment segment) (Compile.segment segment')) :
    Leads (.field term segment) (.field result segment') :=
  fun environment depth lambdas => (leads environment depth lambdas).bind fun _ => same.andThen _

/-- A lambda. -/
theorem lambda (leads : Leads term result) (name : String) :
    Leads (.lambda name term) (.lambda name result) :=
  fun environment depth lambdas => (leads environment depth (name :: lambdas)).andThen _

end Leads

/-- Arguments lead to others under the same names, one by one. -/
def LeadAll (given result : List (Option String × Term)) : Prop :=
  List.Forall₂ (fun argument argument' => argument.1 = argument'.1 ∧ argument.2.Leads argument'.2)
    given result

section Calls

variable {given given' : List (Option String × Term)}

/-- The arguments of a call. -/
theorem LeadAll.compile (leads : LeadAll given given') (environment : Environment) (depth : Nat)
    (lambdas : List String) : Implies (compileArguments ⟨environment, depth, lambdas⟩ given)
      (compileArguments ⟨environment, 0, lambdas⟩ given') := by
  induction leads with
  | nil => exact .refl _
  | @cons argument argument' given given' first later ih =>
    obtain ⟨name, term⟩ := argument
    obtain ⟨name', result⟩ := argument'
    obtain ⟨rfl, leads⟩ := first
    -- Names stay as they are, and each argument leads to its expression.
    exact (leads environment depth lambdas).bind fun _ => ih.andThen _

/-- A call of a function. -/
theorem LeadAll.call (leads : LeadAll given given') (span span' : Span) (name : String) :
    Leads (.call span name given) (.call span' name given') :=
  fun environment depth lambdas => (leads.compile environment depth lambdas).bind fun _ =>
    (Implies.refl _).adapt _ _

/-- A call of a method. -/
theorem LeadAll.method {term result : Term} (leads : LeadAll given given')
    (target : Leads term result) (span span' : Span) (name : String) :
    Leads (.method span term name given) (.method span' result name given') :=
  fun environment depth lambdas => (target environment depth lambdas).bind fun _ =>
    (leads.compile environment depth lambdas).bind fun _ => (Implies.refl _).adapt _ _

end Calls

end Term

end Reshape
