import Reshape.Mapping
import Reshape.Proofs.Eval.Agreement

/-!
Runs of mappings: the statements that have been executed so far, each with the value that its
expression gave. A mapping succeeds exactly if there is a run of all its statements, and fails
exactly if a run of the first of them comes to one that fails.
-/

namespace Reshape

/-- What an assignment of a value to a target does to a draft. -/
inductive Draft.Assigned (draft : Draft) : Target → Value → Draft → Prop where
  | left (target : Target) : Assigned draft target .nothing draft
  | root (path : List String) {value : Value} (given : value ≠ .nothing) :
      Assigned draft (.root path) value
        { draft with root := assignRoot path value draft.root }
  | key (key : String) {value : Value} (given : value ≠ .nothing) :
      Assigned draft (.metadata (some key)) value
        { draft with metadata := assignField key value draft.metadata }
  | cleared : Assigned draft (.metadata none) .delete { draft with metadata := [] }
  | replaced (fields : Fields Value) :
      Assigned draft (.metadata none) (.object fields) { draft with metadata := fields }
  | local (name : String) {value : Value} (given : value ≠ .nothing) :
      Assigned draft (.variable name) value
        { draft with locals := assignField name value draft.locals }

/-- An assignment that a target takes does one of these things. -/
theorem Draft.assigned_of_assign {draft draft' : Draft} {target : Target} {value : Value}
    (assigned : draft.assign target value = .ok draft') : draft.Assigned target value draft' := by
  by_cases given : value = .nothing
  · subst given
    obtain rfl := Except.ok.inj assigned
    exact .left target
  · cases target with
    | root path =>
      obtain rfl : _ = draft' := by simpa [assign] using assigned
      exact .root path given
    | «variable» name =>
      obtain rfl : _ = draft' := by simpa [assign] using assigned
      exact .local name given
    | metadata key =>
      cases key with
      | some key =>
        obtain rfl : _ = draft' := by simpa [assign] using assigned
        exact .key key given
      | none =>
        -- All metadata takes the marker to delete and objects only.
        cases value with
        | delete =>
          obtain rfl := Except.ok.inj assigned
          exact .cleared
        | object fields =>
          obtain rfl := Except.ok.inj assigned
          exact .replaced fields
        | nothing => exact absurd rfl given
        | _ => cases assigned

namespace Mapping

/-- A statement that has been executed, with the value that its expression gave. -/
abbrev Done := Statement × Value

/-- Statements have been executed on an input: with the values that they gave, they have made a
draft and have left a memory. -/
inductive Runs (surroundings : Surroundings) (input : Input) (before : Memory) :
    List Done → Draft → Memory → Prop where
  | start : Runs surroundings input before [] (start input) before
  /-- A further statement is evaluated with the draft so far, and its target gets the value. -/
  | step {done : List Done} {draft draft' : Draft} {memory after : Memory} {statement : Statement}
      {value : Value} (runs : Runs surroundings input before done draft memory)
      (given : ((statement.expr.denote [done.length]).run
        (context surroundings input draft)).outcome memory = (.ok value, after))
      (assigned : draft.assign statement.target value = .ok draft') :
      Runs surroundings input before (done ++ [(statement, value)]) draft' after

variable {surroundings : Surroundings} {input : Input} {before memory after : Memory}
  {draft final : Draft} {done : List Done} {mapping : Mapping}

/-- A statement whose expression gives a value that its target takes makes the next draft. -/
theorem outcome_execute {position : Nat} {statement : Statement} {value : Value}
    (given : ((statement.expr.denote [position]).run
      (context surroundings input draft)).outcome memory = (.ok value, after))
    (assigned : draft.assign statement.target value = .ok final) :
    (execute surroundings input position statement draft).outcome memory = (.ok final, after) := by
  simp [execute, Eval.outcome_adapt, Eval.outcome_bind, given, assigned, Eval.ofExcept,
    Outcome.mapError_ok]

/-- A statement that makes a draft has given a value that its target takes. -/
theorem value_of_execute {position : Nat} {statement : Statement}
    (executed : (execute surroundings input position statement draft).outcome memory =
      (.ok final, after)) :
    ∃ value, ((statement.expr.denote [position]).run
        (context surroundings input draft)).outcome memory = (.ok value, after) ∧
      draft.assign statement.target value = .ok final := by
  simp only [execute, Eval.outcome_adapt, Eval.outcome_bind] at executed
  -- The value comes first, and then the assignment, which leaves the memory as it is.
  rcases given : ((statement.expr.denote [position]).run
    (context surroundings input draft)).outcome memory with ⟨error | value, left⟩
  · simp [given, Outcome.mapError_error] at executed
  · cases assigned : draft.assign statement.target value with
    | error error => simp [given, assigned, Eval.ofExcept, Outcome.mapError_error] at executed
    | ok result =>
      obtain ⟨rfl, rfl⟩ : result = final ∧ left = after := by
        simpa [given, assigned, Eval.ofExcept, Outcome.mapError_ok] using executed
      exact ⟨value, rfl, assigned⟩

namespace Runs

/-- After a run, what is left of the statements is executed as it is after the first of them. -/
theorem outcome_executeAll (runs : Runs surroundings input before done draft memory)
    (rest : List Statement) :
    (executeAll surroundings input 0 (Mapping.start input)
        (done.map Prod.fst ++ rest)).outcome before =
      (executeAll surroundings input done.length draft rest).outcome memory := by
  -- The last statement of the run is the first of those that are left before it.
  induction runs generalizing rest with
  | start => rfl
  | @step done draft draft' memory after statement value _ given assigned ih =>
    rw [List.map_append, List.append_assoc, List.map_singleton, List.singleton_append, ih]
    simp [executeAll, Eval.outcome_bind, outcome_execute given assigned]

/-- After a run, either the run goes on to the end of the statements, or to one that fails. -/
theorem executeAll_cases (runs : Runs surroundings input before done draft memory)
    (rest : List Statement) :
    (∃ more final after, more.map Prod.fst = rest ∧
        Runs surroundings input before (done ++ more) final after ∧
        (executeAll surroundings input done.length draft rest).outcome memory =
          (.ok final, after)) ∨
      ∃ more draft' memory' statement later error after,
        rest = more.map Prod.fst ++ statement :: later ∧
        Runs surroundings input before (done ++ more) draft' memory' ∧
        (execute surroundings input (done ++ more).length statement draft').outcome memory' =
          (.error error, after) ∧
        (executeAll surroundings input done.length draft rest).outcome memory =
          (.error error, after) := by
  induction rest generalizing done draft memory with
  | nil => exact .inl ⟨[], draft, memory, rfl, by simpa using runs, rfl⟩
  | cons statement rest ih =>
    rcases executed : (execute surroundings input done.length statement draft).outcome memory
      with ⟨error | draft', after⟩
    · refine .inr ⟨[], draft, memory, statement, rest, error, after, rfl, by simpa using runs, ?_, ?_⟩
      · simpa using executed
      · simp [executeAll, Eval.outcome_bind, executed]
    · obtain ⟨value, given, assigned⟩ := value_of_execute executed
      have follows : (executeAll surroundings input done.length draft
          (statement :: rest)).outcome memory =
            (executeAll surroundings input (done.length + 1) draft' rest).outcome after := by
        simp [executeAll, Eval.outcome_bind, executed]
      -- The statement joins the run, and what is left is shorter.
      rcases ih (runs.step given assigned) with ⟨more, final, last, rfl, runs, result⟩ |
        ⟨more, final, last, failing, later, error, left, rfl, runs, failed, result⟩
      · refine .inl ⟨(statement, value) :: more, final, last, rfl, by simpa using runs, ?_⟩
        simpa [follows] using result
      · refine .inr ⟨(statement, value) :: more, final, last, failing, later, error, left, rfl,
          by simpa using runs, by simpa using failed, ?_⟩
        simpa [follows] using result

end Runs

/-- A mapping succeeds exactly if there is a run of its statements, whose draft makes the output. -/
theorem run_eq_ok_iff {result : Output} :
    (mapping.run surroundings input).outcome before = (.ok result, after) ↔
      ∃ done draft, Runs surroundings input before done draft after ∧
        done.map Prod.fst = mapping.statements ∧ output input draft = result := by
  rw [run, Eval.outcome_bind]
  -- The statements run to the end or to the first failure, and only the former gives an output.
  constructor
  · intro given
    have nothing : Runs surroundings input before [] (start input) before := .start
    rcases nothing.executeAll_cases mapping.statements with
      ⟨done, draft, left, all, runs, executed⟩ | ⟨_, _, _, _, _, _, _, _, _, _, executed⟩
    · rw [List.length_nil] at executed
      simp only [executed, Eval.outcome_pure, Prod.mk.injEq, Except.ok.injEq] at given
      obtain ⟨rfl, rfl⟩ := given
      exact ⟨done, draft, runs, all, rfl⟩
    · rw [List.length_nil] at executed
      simp [executed] at given
  · rintro ⟨done, draft, runs, all, rfl⟩
    have executed := runs.outcome_executeAll []
    rw [List.append_nil, all] at executed
    rw [executed]
    rfl

/-- A mapping fails exactly if there is a run of the statements before one that fails, with the
error of that one. -/
theorem run_eq_error_iff {error : Error} :
    (mapping.run surroundings input).outcome before = (.error error, after) ↔
      ∃ done draft memory statement rest, Runs surroundings input before done draft memory ∧
        mapping.statements = done.map Prod.fst ++ statement :: rest ∧
        (execute surroundings input done.length statement draft).outcome memory =
          (.error error, after) := by
  -- The statements run to the end or to the first failure, and only the latter gives an error.
  rw [run, Eval.outcome_bind]
  constructor
  · intro given
    have nothing : Runs surroundings input before [] (start input) before := .start
    rcases nothing.executeAll_cases mapping.statements with
      ⟨_, _, _, _, _, executed⟩ |
        ⟨done, draft, memory, statement, rest, _, _, all, runs, failed, executed⟩
    · rw [List.length_nil] at executed
      simp [executed] at given
    · rw [List.length_nil] at executed
      simp only [executed, Prod.mk.injEq, Except.error.injEq] at given
      obtain ⟨rfl, rfl⟩ := given
      exact ⟨done, draft, memory, statement, rest, runs, all, failed⟩
  · rintro ⟨done, draft, memory, statement, rest, runs, all, failed⟩
    rw [all, runs.outcome_executeAll]
    simp [executeAll, Eval.outcome_bind, failed]

end Mapping

end Reshape
