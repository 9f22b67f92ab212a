import Reshape.Eval.Call
import Reshape.Proofs.Eval.Ensures

/-!
Disciplines: what evaluations may do to the memory, whatever they give. A query obeys a discipline if
the queries inside it do.
-/

namespace Reshape

/-- An assertion on values is weakened. -/
theorem Assertion.mono {m : Type → Type} [Monad m] [LawfulMonad m] (assertion : Assertion m)
    {α : Type} {values weaker : α → Prop} (weaken : ∀ a, values a → weaker a) {action : m α}
    (holds : assertion.Holds values action) : assertion.Holds weaker action := by
  -- Handing a value on does nothing else.
  have same : action >>= Pure.pure = action := bind_pure action
  rw [← same]
  exact assertion.bind holds fun a given => assertion.pure (weaken a given)

/-- An assertion that failures keep to, other texts of errors do not matter to, and recovering from
a failure respects. -/
structure Discipline extends Assertion Eval where
  failure {α : Type} {values : α → Prop} (error : Error) : Holds values (throw error : Eval α)
  adapt {α : Type} {values : α → Prop} {action : Eval α} (change : Error → Error)
    (holds : Holds values action) : Holds values (ExceptT.adapt change action)
  attempt {α : Type} {action : Eval α} (holds : Holds (fun _ => True) action) :
    Holds (fun _ => True) action.attempt

variable {discipline : Discipline} {α β : Type}

/-- An evaluation obeys a discipline, whatever it gives. -/
def Eval.Obeys (discipline : Discipline) (action : Eval α) : Prop :=
  discipline.Holds (fun _ => True) action

namespace Eval.Obeys

/-- A value obeys. -/
theorem pure (a : α) : Eval.Obeys discipline (Pure.pure a : Eval α) := discipline.pure trivial

/-- A failure obeys. -/
theorem failure (error : Error) : Eval.Obeys discipline (throw error : Eval α) :=
  discipline.failure error

/-- What is asserted of the values of an evaluation that obeys is of no matter. -/
theorem of_holds {values : α → Prop} {action : Eval α} (holds : discipline.Holds values action) :
    Eval.Obeys discipline action :=
  discipline.mono (fun _ _ => trivial) holds

/-- What follows an evaluation that obeys has to obey for each value. -/
theorem bind {action : Eval α} {next : α → Eval β} (first : Eval.Obeys discipline action)
    (follows : ∀ a, Eval.Obeys discipline (next a)) : Eval.Obeys discipline (action >>= next) :=
  discipline.bind first fun a _ => follows a

/-- A function of what is given changes nothing. -/
theorem map {action : Eval α} (first : Eval.Obeys discipline action) (change : α → β) :
    Eval.Obeys discipline (do return change (← action)) :=
  first.bind fun _ => .pure _

/-- An outcome obeys. -/
theorem ofExcept (outcome : Except Error α) :
    Eval.Obeys discipline (Eval.ofExcept outcome) := by
  cases outcome with
  | ok value => exact .pure value
  | error error => exact .failure error

/-- What follows a condition obeys if both ways do. -/
theorem ite {condition : Eval Bool} {first second : Eval α}
    (asked : Eval.Obeys discipline condition) (holds : Eval.Obeys discipline first)
    (fails : Eval.Obeys discipline second) :
    Eval.Obeys discipline (do if ← condition then first else second) := by
  refine asked.bind fun truth => ?_
  cases truth with
  | true => exact holds
  | false => exact fails

end Eval.Obeys

/-- A query obeys a discipline in every context. -/
def Query.Obeys (discipline : Discipline) (query : Query) : Prop :=
  ∀ context, Eval.Obeys discipline (query.run context)

namespace Query.Obeys

variable {query : Query}

/-- A constant obeys. -/
theorem constant (value : Value) : Query.Obeys discipline (.constant value) :=
  fun _ => .pure value

/-- Reading a query that obeys obeys. -/
theorem read (obeys : Query.Obeys discipline query) (context : Context) :
    Eval.Obeys discipline (query.read context) :=
  discipline.adapt _ (obeys context)

/-- Asking a query that obeys for a truth value obeys. -/
theorem truth (obeys : Query.Obeys discipline query) (context : Context) :
    Eval.Obeys discipline (query.truth context) := by
  refine (obeys.read context).bind fun value => ?_
  -- Any other value is an error.
  cases value with
  | bool truth => exact .pure truth
  | _ => exact .failure _

/-- Asking a query that obeys for a key obeys. -/
theorem key (obeys : Query.Obeys discipline query) (context : Context) :
    Eval.Obeys discipline (query.key context) := by
  -- Only a string is a key.
  refine (obeys.read context).bind fun value => ?_
  cases value with
  | string name => exact .pure name
  | _ => exact .failure _

/-- Asking a query that obeys for an integer obeys. -/
theorem integer (obeys : Query.Obeys discipline query) (name : String) (context : Context) :
    Eval.Obeys discipline (query.integer name context) := by
  -- Any value but an integer is refused.
  refine (obeys.read context).bind fun value => ?_
  cases value.toInt64? with
  | some result => exact .pure _
  | none => exact .failure _

/-- Turning the sign of what a query gives obeys if the query does. -/
theorem negate (obeys : Query.Obeys discipline query) (context : Context) :
    Eval.Obeys discipline (query.negate context) := by
  -- Only a number has a sign.
  refine (obeys.read context).bind fun value => ?_
  cases value.negate with
  | some result => exact .pure result
  | none => exact .failure _

/-- Items obey if each of them does. -/
theorem items {queries : List Query} (each : ∀ query ∈ queries, Query.Obeys discipline query)
    (context : Context) : Eval.Obeys discipline (Query.items context queries) := by
  -- The first item is read before the others.
  induction queries with
  | nil => exact .pure []
  | cons item rest ih =>
    rw [List.forall_mem_cons] at each
    refine (each.1.read context).bind fun value => ?_
    exact (ih each.2).map _

/-- Fields obey if their keys and values do. -/
theorem fields {queries : List (Query × Query)}
    (each : ∀ pair ∈ queries, Query.Obeys discipline pair.1 ∧ Query.Obeys discipline pair.2)
    (context : Context) (done : Fields Value) :
    Eval.Obeys discipline (Query.fields context done queries) := by
  -- The fields that are done go along.
  induction queries generalizing done with
  | nil => exact .pure done
  | cons pair rest ih =>
    rw [List.forall_mem_cons] at each
    refine (each.1.1.key context).bind fun name => ?_
    refine (each.1.2.read context).bind fun value => ?_
    exact ih each.2 _

/-- An operator obeys if its operands do. -/
theorem binary {left right : Query} (operator : Operator) (first : Query.Obeys discipline left)
    (second : Query.Obeys discipline right) (context : Context) :
    Eval.Obeys discipline (Query.binary operator left right context) := by
  have truth : Eval.Obeys discipline (do return Value.bool (← right.truth context)) :=
    (second.truth context).map _
  -- Only the two operators that may leave their second operand out are not strict.
  cases operator with
  | and => exact (first.truth context).ite truth (.pure _)
  | or => exact (first.truth context).ite (.pure _) truth
  | _ =>
    refine (first.read context).bind fun a => (second.read context).bind fun b => ?_
    generalize Operator.result? _ a b = outcome
    rcases outcome with fault | _ | result
    · exact .failure _
    · exact .failure _
    · exact .pure result

/-- Alternatives obey if both queries do. -/
theorem coalesce {left right : Query} (first : Query.Obeys discipline left)
    (second : Query.Obeys discipline right) (context : Context) :
    Eval.Obeys discipline (Query.coalesce left right context) := by
  have attempted : Eval.Obeys discipline (left.run context).attempt :=
    discipline.attempt (first context)
  refine attempted.bind fun outcome => ?_
  -- The second query is asked for after a failure, after null and after nothing.
  split
  · exact second.read context
  · exact second.read context
  · exact second.read context
  · exact .pure _

/-- Branches obey if their conditions and bodies do. -/
theorem branches {otherwise : Option Query} {tests : List (Query × Query)}
    (last : ∀ body ∈ otherwise, Query.Obeys discipline body)
    (each : ∀ pair ∈ tests, Query.Obeys discipline pair.1 ∧ Query.Obeys discipline pair.2)
    (context : Context) : Eval.Obeys discipline (Query.branches otherwise context tests) := by
  -- The body of the first condition that holds is read, or the last body.
  induction tests with
  | nil =>
    cases otherwise with
    | none => exact .pure _
    | some body => exact (last body rfl).read context
  | cons pair rest ih =>
    rw [List.forall_mem_cons] at each
    exact (each.1.1.truth context).ite (each.1.2.read context) (ih each.2)

/-- Cases obey if their tests and bodies do. -/
theorem cases {rules : List (Case Query × Query)}
    (each : ∀ rule ∈ rules, (∀ test, rule.1 = .query test → Query.Obeys discipline test) ∧
      Query.Obeys discipline rule.2)
    (context : Context) : Eval.Obeys discipline (Query.cases context rules) := by
  induction rules with
  | nil => exact .pure _
  | cons rule rest ih =>
    rw [List.forall_mem_cons] at each
    obtain ⟨case, body⟩ := rule
    have applies : Eval.Obeys discipline (Query.applies context case) := by
      -- Only a test is evaluated to decide whether a case applies.
      cases case with
      | wildcard => exact .pure true
      | equals constant => exact .pure _
      | query test =>
        refine ((each.1.1 test rfl).read context).bind fun value => ?_
        cases value with
        | bool truth => exact .pure truth
        | _ => exact .pure _
    exact applies.ite (each.1.2.read context) (ih each.2)

/-- A lambda obeys if its body does. -/
theorem lambda {body : Query} (obeys : Query.Obeys discipline body) (name : String)
    (context : Context) : Eval.Obeys discipline (Query.lambda name body context) := by
  unfold Query.lambda
  -- Without a current value there is nothing to bind.
  split
  · exact obeys.read _
  · exact .failure _

end Query.Obeys

end Reshape
