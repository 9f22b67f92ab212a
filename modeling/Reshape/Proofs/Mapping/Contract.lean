import Reshape.Proofs.Eval.Lexical
import Reshape.Proofs.Eval.Plain
import Reshape.Proofs.Grammar.Term
import Reshape.Proofs.Mapping.Run

/-!
Mappings keep to contracts: their expressions are plain, each statement takes a draft that keeps to a
contract to another one, and so does a run, as long as what statements put into other values is data.
-/

namespace Reshape

variable {contract : Contract} {environment : Environment}

/-- What a term whose literals are data is compiled to is plain. -/
theorem Term.plain_of_compile (builtin : environment.IsBuiltin) {term : Term}
    (written : Term.Plain contract.Data term) :
    Compile.Match (fun expr _ => Expr.Plain contract expr) (term.compile ⟨environment, 0, []⟩)
      (term.compile ⟨environment, 0, []⟩) := by
  -- Compiling a term is compiling it twice, with nothing in holes.
  have none : Term.RelatesHoles environment
      (fun _ expr expr' => expr' = expr ∧ Expr.Plain contract expr) fun _ _ => False :=
    fun _ _ _ _ filled => filled.elim
  have same := Term.compile_related (Expr.plain_respects builtin) none 0 [] written
  exact fun warnings warnings' expr expr' first second =>
    (same warnings warnings' expr expr' first second).2

/-- The expressions of a compiled mapping are plain. -/
theorem Mapping.Compiled.plain (builtin : environment.IsBuiltin) {mapping : Mapping}
    (compiled : mapping.Compiled environment) :
    ∀ statement ∈ mapping.statements, Expr.Plain contract statement.expr := by
  -- The statements are compiled from terms that were read, and these have plain literals.
  obtain ⟨source, warnings, given⟩ := compiled
  have whole : Compile.Match (fun mapping _ => ∀ statement ∈ mapping.statements,
      Expr.Plain contract statement.expr) (Mapping.compile environment source)
      (Mapping.compile environment source) := by
    refine Mapping.compile_match fun sentences read sentence member => ?_
    exact Term.plain_of_compile builtin
      (Sentence.plain_of_read (fun _ => contract.atom) read sentence member)
  exact whole _ _ _ _ given given

/-- An input keeps to a contract: its value and its metadata are data, and its message keeps to the
contract. -/
structure Input.Keeps (contract : Contract) (input : Input) : Prop where
  value : ∀ value ∈ input.value, contract.Data value
  metadata : ∀ field ∈ input.metadata, contract.Data field.2
  message : ∀ batch ∈ input.batch, ∀ message ∈ batch[input.index]?,
    Message.Keeps contract message

/-- A draft keeps to a contract: its document is a result, and its metadata and variables are
data. -/
structure Draft.Keeps (contract : Contract) (draft : Draft) : Prop where
  root : contract.Result draft.root
  metadata : ∀ field ∈ draft.metadata, contract.Data field.2
  locals : ∀ field ∈ draft.locals, contract.Data field.2

/-- The context of a statement keeps to a contract if its input and its draft do. -/
theorem Mapping.context_keeps {input : Input} {draft : Draft} (surroundings : Surroundings)
    (given : Input.Keeps contract input) (before : Draft.Keeps contract draft) :
    Context.Keeps contract (context surroundings input draft) where
  -- A context is made of the input, the draft and what no value comes from.
  value value known := .inr (given.value value known)
  outer := by simp [context, Context.bare]
  names := by simp [context, Context.bare]
  root root known := Option.some.inj known ▸ before.root
  locals := before.locals
  metadata := before.metadata
  message := given.message

namespace Draft

variable {draft draft' : Draft} {value root : Value} {path : List String}

/-- A result that asks neither to remove a target nor to leave it as it is is data. -/
theorem data_of_result (result : contract.Result value) (given : value ≠ .nothing)
    (kept : value ≠ .delete) : contract.Data value := by
  refine result.data ?_
  cases value with
  | delete => exact absurd rfl kept
  | nothing => exact absurd rfl given
  | _ => rfl

/-- A document stays a result when a result is assigned in it. -/
theorem result_assignRoot (result : contract.Result value) (given : value ≠ .nothing)
    (before : contract.Result root) : contract.Result (assignRoot path value root) := by
  -- At the root the value takes its place; at a path it is deleted there or written there.
  cases path with
  | nil => exact result
  | cons segment rest =>
    by_cases deletion : value = .delete
    · subst deletion
      exact contract.result_deletePath before (segment :: rest)
    · have data := data_of_result result given deletion
      have start : contract.Data (if root.isMarker then .object [] else root) := by
        cases marker : root.isMarker with
        | true => exact (contract.object []).2 (by simp)
        | false => exact before.data marker
      have written : contract.Data (assignRoot (segment :: rest) value root) := by
        simpa [assignRoot, deletion] using contract.set data start
      exact .inr written

/-- Fields stay data when a result is assigned to a name. -/
theorem data_assignField {fields : Fields Value} {name : String}
    (result : contract.Result value) (given : value ≠ .nothing)
    (before : ∀ field ∈ fields, contract.Data field.2) :
    ∀ field ∈ assignField name value fields, contract.Data field.2 := by
  -- A deletion takes the field away, and any other value is written.
  by_cases deletion : value = .delete
  · subst deletion
    exact fun field member => before field (Fields.mem_of_mem_erase member)
  · have written : assignField name value fields = fields.insert name value := by
      simp [assignField]
    exact written ▸ contract.insert before (data_of_result result given deletion)

/-- An assignment of a result takes a draft that keeps to a contract to another one. -/
theorem Assigned.keeps {target : Target} (assigned : draft.Assigned target value draft')
    (result : contract.Result value) (before : Draft.Keeps contract draft) :
    Draft.Keeps contract draft' := by
  -- Each way to assign changes one part of the draft, by a result.
  cases assigned with
  | left => exact before
  | root path given => exact { before with root := result_assignRoot result given before.root }
  | key key given =>
    exact { before with metadata := data_assignField result given before.metadata }
  | cleared => exact { before with metadata := by simp }
  | replaced fields =>
    exact { before with metadata := (contract.object fields).1 (result.data rfl) }
  | «local» name given =>
    exact { before with locals := data_assignField result given before.locals }

/-- An assignment that a target does not take is reported. -/
theorem reported_of_assign {target : Target} {error : Error}
    (failed : draft.assign target value = .error error) : error.isPlaced = false := by
  cases target with
  | metadata key =>
    cases key with
    | none =>
      -- Only an object can stand for all metadata, or a deletion or nothing.
      cases value with
      | nothing | delete | object => cases failed
      | _ =>
        obtain rfl := Except.error.inj failed
        rfl
    | some key => cases value <;> cases failed
  | _ => cases value <;> cases failed

end Draft

namespace Mapping

variable {surroundings : Surroundings} {input : Input} {before memory after : Memory}
  {draft : Draft} {done : List Done} {mapping : Mapping}

/-- While the statements of a mapping are executed, what they put into other values is data. -/
def StoresData (contract : Contract) (mapping : Mapping) (surroundings : Surroundings)
    (input : Input) (before : Memory) : Prop :=
  ∀ done draft memory statement rest, Runs surroundings input before done draft memory →
    mapping.statements = done.map Prod.fst ++ statement :: rest →
      ∀ inner at' value, Evaluates statement.expr (context surroundings input draft) inner at' →
        inner.Stores at' value → contract.Data value

/-- A plain statement that puts nothing but data into other values gives a result, or an error that
may be reported. -/
theorem keeps_statement {statement : Statement} (plain : statement.expr.Plain contract)
    (given : Input.Keeps contract input) (kept : Draft.Keeps contract draft)
    (stored : ∀ inner at' value,
      Evaluates statement.expr (context surroundings input draft) inner at' →
        inner.Stores at' value → contract.Data value) (position : Nat) :
    Eval.Keeps contract
      ((statement.expr.denote [position]).run (context surroundings input draft)) :=
  plain.keeps (context_keeps surroundings given kept) stored [position]

/-- Along a run of plain statements the drafts keep to the contract. -/
theorem Runs.keeps (runs : Runs surroundings input before done draft memory)
    (plain : ∀ statement ∈ mapping.statements, Expr.Plain contract statement.expr)
    (given : Input.Keeps contract input)
    (stored : mapping.StoresData contract surroundings input before) {rest : List Statement}
    (statements : mapping.statements = done.map Prod.fst ++ rest) : Draft.Keeps contract draft := by
  induction runs generalizing rest with
  | start =>
    exact ⟨.inl rfl, given.metadata, by simp [Mapping.start]⟩
  | @step done draft draft' memory after statement value runs outcome assigned ih =>
    -- The statement comes after those that the run had executed before.
    have split : mapping.statements = done.map Prod.fst ++ statement :: rest := by
      simpa using statements
    have kept := ih split
    have own := keeps_statement (plain statement (by simp [split])) given kept
      (stored done draft memory statement rest runs split) done.length
    have result := (own memory).of_ok (congrArg Prod.fst outcome)
    exact (Draft.assigned_of_assign assigned).keeps result kept

/-- A statement that fails gives an error that may be reported, under its own label and line. -/
theorem error_of_execute {statement : Statement} (plain : statement.expr.Plain contract)
    (given : Input.Keeps contract input) (kept : Draft.Keeps contract draft)
    (stored : ∀ inner at' value,
      Evaluates statement.expr (context surroundings input draft) inner at' →
        inner.Stores at' value → contract.Data value) {position : Nat} {error : Error}
    (failed : (execute surroundings input position statement draft).outcome memory =
      (.error error, after)) :
    ∃ inner, contract.Reported inner ∧
      error = .assignment statement.line (inner.label statement.expr.label) := by
  -- The statement evaluates its expression, and then assigns what that gives.
  have own := keeps_statement plain given kept stored position
  have whole : Eval.Ensures (fun _ => True)
      (fun error => ∃ inner, contract.Reported inner ∧
        error = .assignment statement.line (inner.label statement.expr.label))
      (execute surroundings input position statement draft) := by
    unfold execute
    refine Eval.Ensures.adapt (own.bind fun value _ => ?_) fun inner reported =>
      ⟨inner, reported, by rw [Query.label, Expr.expr_denote]⟩
    cases assigned : draft.assign statement.target value with
    | ok result => exact .pure trivial
    | error error => exact Eval.keeps_error (Draft.reported_of_assign assigned)
  exact (whole memory).of_error (congrArg Prod.fst failed)

end Mapping

end Reshape
