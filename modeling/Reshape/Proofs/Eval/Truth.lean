import Reshape.Proofs.Eval.Denote

/-!
Truth values: the expressions whose form tells that they give truth values only. As the test of a
case, such an expression is not compared with the current value.
-/

namespace Reshape

/-- The value is a truth value. -/
def Value.IsTruth (value : Value) : Prop := ∃ truth, value = .bool truth

/-- An operator gives truth values only. -/
def Operator.isTruth : Operator → Bool
  | .add | .subtract | .multiply | .divide | .remainder => false
  | _ => true

/-- A method gives truth values only. -/
def Method.isTruth : Method → Bool
  | .any | .all | .contains | .hasPrefix | .hasSuffix | .reMatch | .exists | .bool => true
  | _ => false

/-- An expression gives truth values only, as its form tells. -/
def Expr.isTruth : Expr → Bool
  | .literal (.bool _) | .not _ => true
  | .binary operator _ _ => operator.isTruth
  | .method _ called _ => called.isTruth
  | _ => false

namespace Eval

variable {α β : Type}

/-- An evaluation gives, if anything, a value with a property. -/
def Yields (property : α → Prop) (action : Eval α) : Prop :=
  ∀ memory value, (action.outcome memory).1 = .ok value → property value

namespace Yields

variable {property : α → Prop} {later : β → Prop}

/-- A value gives itself. -/
theorem pure {value : α} (holds : property value) : Eval.Yields property (Pure.pure value) := by
  rintro memory _ ⟨⟩
  exact holds

/-- A failure gives nothing. -/
theorem failure (error : Error) : Eval.Yields property (throw error) := by
  rintro memory value ⟨⟩

/-- What follows an evaluation gives values with a property if it does for each value. -/
theorem bind {action : Eval α} {next : α → Eval β}
    (follows : ∀ value, Eval.Yields later (next value)) : Eval.Yields later (action >>= next) := by
  intro memory value given
  rw [outcome_bind] at given
  generalize action.outcome memory = outcome at given
  obtain ⟨outcome, after⟩ := outcome
  -- What is given is what the next part gives after a value.
  cases outcome with
  | ok middle => exact follows middle after value given
  | error error => cases given

/-- Another text for an error gives nothing else. -/
theorem adapt {action : Eval α} (change : Error → Error) (yields : Eval.Yields property action) :
    Eval.Yields property (ExceptT.adapt change action) := by
  intro memory value given
  rw [outcome_adapt] at given
  refine yields memory value ?_
  generalize (action.outcome memory).1 = outcome at given ⊢
  -- A value is given as it is.
  cases outcome with
  | ok result => exact given
  | error error => cases given

/-- An outcome gives its value. -/
theorem ofExcept {outcome : Except Error α}
    (holds : ∀ value, outcome = .ok value → property value) :
    Eval.Yields property (Eval.ofExcept outcome) := by
  -- An error gives nothing.
  cases outcome with
  | ok value => exact .pure (holds value rfl)
  | error error => exact .failure error

/-- What follows an outcome gives values with a property if it does for its value. -/
theorem afterExcept {outcome : Except Error α} {next : α → Eval β}
    (follows : ∀ value, outcome = .ok value → Eval.Yields later (next value)) :
    Eval.Yields later (Eval.ofExcept outcome >>= next) := by
  -- An error gives nothing.
  cases outcome with
  | ok value => exact follows value rfl
  | error error => exact .failure error

end Yields

end Eval

/-- What an operator that gives truth values gives is one. -/
theorem Operator.isTruth_of_result? {operator : Operator} (truth : operator.isTruth = true)
    {left right result : Value} (given : operator.result? left right = .ok (some result)) :
    result.IsTruth := by
  have compared (operator : Operator) (given : operator.compare? left right = some result) :
      result.IsTruth := by
    unfold compare? at given
    split at given
    · exact ⟨_, (Option.some.inj given).symm⟩
    · cases given
  have combined (operation : Bool → Bool → Bool)
      (given : combine? operation left right = some result) : result.IsTruth := by
    unfold combine? at given
    split at given
    · exact ⟨_, (Option.some.inj given).symm⟩
    · cases given
  -- Comparisons and connectives make truth values; the other operators are not asked about.
  cases operator with
  | equal | unequal => exact ⟨_, (Option.some.inj (Except.ok.inj given)).symm⟩
  | greater | greaterEqual | less | lessEqual => exact compared _ (Except.ok.inj given)
  | and | or => exact combined _ (Except.ok.inj given)
  | _ => cases truth

/-- A call of a method gives truth values only. -/
inductive MethodCall.IsTruth {ε : Type} : MethodCall ε → Prop where
  | plain {operation : Value → Except Error Value}
      (truth : ∀ value result, operation value = .ok result → result.IsTruth) :
      IsTruth (.plain operation)
  | any (test : ε) : IsTruth (.any test)
  | all (test : ε) : IsTruth (.all test)

/-- A method that gives truth values is prepared to a call that does. -/
theorem Method.isTruth_of_prepare {ε : Type} [Bindable ε] {method : Method}
    (truth : method.isTruth = true) {bound : Bound ε} {call : MethodCall ε}
    (prepared : method.prepare bound = .ok call) : call.IsTruth := by
  have testing (test : Text → Bool) (value result : Value)
      (given : Method.testing test value = .ok result) : result.IsTruth := by
    obtain ⟨text, _, given⟩ := Outcome.of_bind_eq_ok given
    exact ⟨_, (Except.ok.inj given).symm⟩
  -- Each of these methods ends in a truth value, whatever it does before.
  cases method with
  | any =>
    obtain ⟨test, _, given⟩ := Outcome.of_bind_eq_ok prepared
    obtain rfl := Except.ok.inj given
    exact .any test
  | all =>
    obtain ⟨test, _, given⟩ := Outcome.of_bind_eq_ok prepared
    obtain rfl := Except.ok.inj given
    exact .all test
  | hasPrefix | hasSuffix =>
    obtain ⟨needle, _, given⟩ := Outcome.of_bind_eq_ok prepared
    obtain rfl := Except.ok.inj given
    exact .plain (testing _)
  | reMatch =>
    obtain ⟨pattern, _, given⟩ := Outcome.of_bind_eq_ok prepared
    obtain ⟨searcher, _, given⟩ := Outcome.of_bind_eq_ok given
    obtain rfl := Except.ok.inj given
    exact .plain (testing _)
  | contains =>
    obtain ⟨wanted, _, given⟩ := Outcome.of_bind_eq_ok prepared
    obtain rfl := Except.ok.inj given
    refine .plain fun value result given => ?_
    unfold Collection.contains at given
    split at given
    · exact ⟨_, (Except.ok.inj given).symm⟩
    · obtain ⟨text, _, given⟩ := Outcome.of_bind_eq_ok given
      exact ⟨_, (Except.ok.inj given).symm⟩
  | «exists» =>
    obtain ⟨path, _, given⟩ := Outcome.of_bind_eq_ok prepared
    obtain rfl := Except.ok.inj given
    exact .plain fun value result given => ⟨_, (Except.ok.inj given).symm⟩
  | bool =>
    obtain ⟨standard, _, given⟩ := Outcome.of_bind_eq_ok prepared
    obtain rfl := Except.ok.inj given
    refine .plain fun value result given => ?_
    unfold Method.converted at given
    split at given
    next found =>
      obtain rfl := Except.ok.inj given
      rcases Option.or_eq_some_iff.1 found with own | ⟨_, other⟩
      · obtain ⟨truth, _, rfl⟩ := Option.map_eq_some_iff.1 own
        exact ⟨truth, rfl⟩
      · obtain ⟨truth, _, rfl⟩ := Option.map_eq_some_iff.1 other
        exact ⟨truth, rfl⟩
    next => cases given
  | _ => cases truth

/-- What a call that gives truth values gives is one. -/
theorem MethodCall.IsTruth.yields {call : MethodCall Query} (truth : call.IsTruth)
    (target : Except Error Value) (context : Context) :
    Eval.Yields Value.IsTruth (call.run target context) := by
  -- None of these calls goes on after a failure of the target.
  cases target with
  | error error => cases truth <;> exact .failure error
  | ok value =>
    cases truth with
    | plain truth => exact .ofExcept (truth value)
    | any test =>
      simp only [run, Collection.any]
      cases Collection.items value with
      | ok items => exact .bind fun found => .pure ⟨found, rfl⟩
      | error error => exact .failure error
    | all test =>
      simp only [run, Collection.all]
      cases Collection.items value with
      | ok items => exact .bind fun found => .pure ⟨_, rfl⟩
      | error error => exact .failure error

/-- An expression whose form tells that it gives truth values gives nothing else. -/
theorem Expr.yields_truth {expr : Expr} (truth : expr.isTruth = true) (site : Site)
    (context : Context) : Eval.Yields Value.IsTruth ((expr.denote site).run context) := by
  -- The form of the expression tells where its value comes from.
  cases expr with
  | literal value =>
    cases value with
    | bool given => exact .pure ⟨given, rfl⟩
    | _ => cases truth
  | not inner => exact .bind fun given => .pure ⟨_, rfl⟩
  | binary operator left right =>
    simp only [denote, Query.binary]
    split
    · refine .bind fun given => ?_
      split
      · exact .bind fun other => .pure ⟨_, rfl⟩
      · exact .pure ⟨_, rfl⟩
    · refine .bind fun given => ?_
      split
      · exact .pure ⟨_, rfl⟩
      · exact .bind fun other => .pure ⟨_, rfl⟩
    · refine .bind fun a => .bind fun b => ?_
      split
      next result given => exact .pure (Operator.isTruth_of_result? truth given)
      next => exact .failure _
      next => exact .failure _
  | method target called slots =>
    -- The target and the arguments come first, and then the call that is prepared with them.
    refine .adapt _ (.bind fun outcome => .bind fun bound => ?_)
    exact .afterExcept fun call prepared =>
      (Method.isTruth_of_prepare truth prepared).yields outcome context
  | _ => cases truth

/-- Evaluations that agree do so in values with a property that one of them has. -/
theorem Eval.Agree.and_yields {α β : Type} {memories : Memory → Memory → Prop}
    {values : α → β → Prop} {property : α → Prop} {left : Eval α} {right : Eval β}
    (agree : Eval.Agree memories values left right) (yields : Eval.Yields property left) :
    Eval.Agree memories (fun a b => values a b ∧ property a) left right := by
  intro before before' start
  obtain ⟨same, reached⟩ := agree start
  refine ⟨?_, reached⟩
  -- The value on the left has the property, as it is given there.
  have holds := yields before
  generalize (left.outcome before).1 = outcome at same holds ⊢
  generalize (right.outcome before').1 = outcome' at same ⊢
  cases same with
  | value related => exact .value ⟨related, holds _ rfl⟩
  | failure first second => exact .failure first second

/-- A test that gives truth values only decides without the current value. -/
theorem Query.Agree.applies_truth {memories : Memory → Memory → Prop} {context context' : Context}
    {test test' : Query} (agree : Query.Agree memories context context' test test')
    (truth : Eval.Yields Value.IsTruth (test.run context)) :
    Eval.Agree memories Eq (Query.applies context (.query test))
      (Query.applies context' (.query test')) := by
  refine (agree.read.and_yields (truth.adapt _)).bind ?_
  -- A truth value decides by itself, and the current value is not compared.
  rintro _ _ ⟨rfl, truth, rfl⟩
  exact .pure rfl

end Reshape
