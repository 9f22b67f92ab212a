import Mathlib.Data.List.Forall2
import Reshape.Proofs.Eval.Agreement

/-!
Agreement of queries: whatever an expression is built of, it agrees in two contexts if its parts do
where the expression reads them.
-/

namespace Reshape

variable {memories : Memory → Memory → Prop} {context context' : Context}

/-- Two queries agree: each evaluated in a context of its own, they agree in equal values. -/
def Query.Agree (memories : Memory → Memory → Prop) (context context' : Context)
    (query query' : Query) : Prop :=
  Eval.Agree memories Eq (query.run context) (query'.run context')

namespace Query.Agree

/-- Queries that agree are read alike. -/
theorem read {query query' : Query} (agree : Query.Agree memories context context' query query') :
    Eval.Agree memories Eq (query.read context) (query'.read context') :=
  Eval.Agree.adapt _ _ agree

/-- Queries that agree give the same truth value. -/
theorem truth {query query' : Query}
    (agree : Query.Agree memories context context' query query') :
    Eval.Agree memories Eq (query.truth context) (query'.truth context') := by
  refine agree.read.andThen fun value => ?_
  -- Both sides fail at the same value unless it is a truth value.
  cases value with
  | bool truth => exact .pure rfl
  | _ => exact .failure _ _

/-- Queries that agree give the same key. -/
theorem key {query query' : Query} (agree : Query.Agree memories context context' query query') :
    Eval.Agree memories Eq (query.key context) (query'.key context') := by
  refine agree.read.andThen fun value => ?_
  -- Both sides fail at the same value unless it is a text.
  cases value with
  | string name => exact .pure rfl
  | _ => exact .failure _ _

/-- Queries that agree give the same integer. -/
theorem negate {query query' : Query}
    (agree : Query.Agree memories context context' query query') :
    Eval.Agree memories Eq (query.negate context) (query'.negate context') := by
  refine agree.read.andThen fun value => ?_
  -- Both sides fail at the same value unless it is a number with a negative.
  cases value.negate with
  | some result => exact .pure rfl
  | none => exact .failure _ _

/-- Queries that agree pairwise give the same items. -/
theorem items {queries queries' : List Query}
    (agree : List.Forall₂ (Query.Agree memories context context') queries queries') :
    Eval.Agree memories Eq (Query.items context queries) (Query.items context' queries') := by
  -- The queries are read in order, and a marker is left out on both sides.
  induction agree with
  | nil => exact .pure rfl
  | cons first _ ih =>
    refine first.read.andThen fun value => ?_
    refine ih.andThen fun values => ?_
    exact .pure rfl

/-- Two pairs of queries agree if both queries of one do with those of the other. -/
abbrev Pairs (memories : Memory → Memory → Prop) (context context' : Context)
    (pair pair' : Query × Query) : Prop :=
  Query.Agree memories context context' pair.1 pair'.1 ∧
    Query.Agree memories context context' pair.2 pair'.2

/-- Keys and values that agree pairwise give the same fields. -/
theorem fields {queries queries' : List (Query × Query)}
    (agree : List.Forall₂ (Pairs memories context context') queries queries')
    (done : Fields Value) :
    Eval.Agree memories Eq (Query.fields context done queries)
      (Query.fields context' done queries') := by
  -- The fields that are done go along, as a later field replaces one of the same name.
  induction agree generalizing done with
  | nil => exact .pure rfl
  | cons first _ ih =>
    refine first.1.key.andThen fun name => ?_
    refine first.2.read.andThen fun value => ?_
    exact ih _

/-- Operands that agree give the same result of an operator. -/
theorem binary (operator : Operator) {left left' right right' : Query}
    (first : Query.Agree memories context context' left left')
    (second : Query.Agree memories context context' right right') :
    Eval.Agree memories Eq (Query.binary operator left right context)
      (Query.binary operator left' right' context') := by
  have right_truth : Eval.Agree memories Eq (do return Value.bool (← right.truth context))
      (do return Value.bool (← right'.truth context')) :=
    second.truth.map fun _ _ same => congrArg Value.bool same
  -- Only the two operators that may leave their second operand out are not strict.
  cases operator with
  | and => exact first.truth.ite right_truth (.pure rfl)
  | or => exact first.truth.ite (.pure rfl) right_truth
  | _ =>
    refine first.read.andThen fun a => ?_
    refine second.read.andThen fun b => ?_
    generalize Operator.result? _ a b = outcome
    rcases outcome with fault | _ | result
    · exact .failure _ _
    · exact .failure _ _
    · exact .pure rfl

/-- Alternatives that agree give the same first value. -/
theorem coalesce {left left' right right' : Query}
    (first : Query.Agree memories context context' left left')
    (second : Query.Agree memories context context' right right') :
    Eval.Agree memories Eq (Query.coalesce left right context)
      (Query.coalesce left' right' context') := by
  refine (Eval.Agree.attempt first).bind ?_
  -- A failure, a null and a marker for nothing lead to the second alternative, any other value
  -- does not.
  rintro _ _ (@⟨value, _, rfl⟩ | ⟨error, error'⟩)
  · cases value with
    | null => exact second.read
    | nothing => exact second.read
    | _ => exact .pure rfl
  · exact second.read

/-- Branches that agree pairwise give the same. -/
theorem branches {otherwise otherwise' : Option Query} {tests tests' : List (Query × Query)}
    (last : Option.Rel (Query.Agree memories context context') otherwise otherwise')
    (agree : List.Forall₂ (Pairs memories context context') tests tests') :
    Eval.Agree memories Eq (Query.branches otherwise context tests)
      (Query.branches otherwise' context' tests') := by
  -- The first condition that holds decides on both sides.
  induction agree with
  | nil =>
    cases last with
    | some agree => exact agree.read
    | none => exact .pure rfl
  | cons first _ ih => exact first.1.truth.ite first.2.read ih

/-- Whether two cases apply agrees if their tests do and, where no truth value comes of them, the
current values are equal to the same values. -/
theorem applies_query {test test' : Query}
    (agree : Eval.Agree memories
      (fun given given' => given = given' ∧ ((∀ truth, given ≠ .bool truth) →
        (context.value.any fun value => value == given) =
          context'.value.any fun value => value == given))
      (test.run context) (test'.run context')) :
    Eval.Agree memories Eq (Query.applies context (.query test))
      (Query.applies context' (.query test')) := by
  refine (Eval.Agree.adapt _ _ agree).bind ?_
  rintro value _ ⟨rfl, same⟩
  -- Only a value that is no truth value is compared.
  cases value with
  | bool truth => exact .pure rfl
  | _ => exact .pure (same (by simp))

/-- Tests that agree decide alike on the same current value. -/
theorem applies {test test' : Query} (agree : Query.Agree memories context context' test test')
    (current : context'.value = context.value) :
    Eval.Agree memories Eq (Query.applies context (.query test))
      (Query.applies context' (.query test')) := by
  -- The same value is compared with the same current value.
  refine applies_query (Eval.Agree.mono ?_ agree)
  rintro value _ rfl
  exact ⟨rfl, fun _ => by rw [current]⟩

/-- Cases that agree on whether they apply, with bodies that agree, give the same. -/
theorem cases {rules rules' : List (Case Query × Query)}
    (agree : List.Forall₂ (fun rule rule' =>
      Eval.Agree memories Eq (Query.applies context rule.1) (Query.applies context' rule'.1) ∧
        Query.Agree memories context context' rule.2 rule'.2) rules rules') :
    Eval.Agree memories Eq (Query.cases context rules) (Query.cases context' rules') := by
  -- The first case that applies decides on both sides.
  induction agree with
  | nil => exact .pure rfl
  | cons first _ ih => exact first.1.ite first.2.read ih

/-- Lambdas agree if there is a current value in both contexts or in none, and their bodies agree
where it is bound. -/
theorem lambda (name : String) {body body' : Query}
    (agree : Option.Rel
      (fun value value' =>
        Query.Agree memories (context.bind name value) (context'.bind name value') body body')
      context.value context'.value) :
    Eval.Agree memories Eq (Query.lambda name body context)
      (Query.lambda name body' context') := by
  unfold Query.lambda
  generalize context.value = current at agree ⊢
  generalize context'.value = current' at agree ⊢
  -- Without a current value there is nothing to bind, and both sides fail.
  cases agree with
  | some agree => exact agree.read
  | none => exact .failure _ _

end Query.Agree

end Reshape
