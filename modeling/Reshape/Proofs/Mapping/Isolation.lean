import Reshape.Proofs.Environment.Narrowing
import Reshape.Proofs.Eval.Isolation
import Reshape.Proofs.Eval.Lexical

/-!
Isolation of messages: what a mapping of a pure environment makes of a message depends on nothing
but the message, its position and the length of its batch, and leaves nothing behind.
-/

namespace Reshape

/-- A function that the catalog does not tell to be impure is isolated. -/
theorem Function.isIsolated_of_pure {function : Function} (pure : function.notes.isImpure = false) :
    function.isIsolated = true := by
  -- Each function that is not isolated has its mark in the catalog.
  cases function with
  | env | now | timestampUnix | uuid | counter | randomInt | count => cases pure
  | _ => rfl

/-- All functions of the pure part of the standard environment are isolated. -/
theorem Environment.isolated_of_offers {function : Function}
    (offered : Environment.standard.onlyPure.Offers function) : function.isIsolated = true := by
  obtain ⟨name, entry, found, rfl⟩ := offered
  -- The entry is one of the standard environment, and its notes have been accepted.
  obtain ⟨member, accepted⟩ := List.mem_filter.1 (Fields.mem_of_get? found)
  obtain ⟨function, _, same⟩ := List.mem_map.1 (Fields.mem_ofList member)
  obtain ⟨rfl, rfl⟩ := Prod.mk.inj same
  exact Function.isIsolated_of_pure (by simpa using accepted)

/-- A function that a scoped expression calls is one that the environment offers. -/
theorem Expr.Scoped.offers {environment : Environment} {names : List String} {expr : Expr}
    {function : Function} (closed : Expr.Scoped environment names expr)
    (calls : expr.Calls function) : environment.Offers function := by
  -- A call in a part is one of the whole, whose parts are scoped with the names of lambdas added.
  induction calls generalizing names with
  | here function slots =>
    cases closed with
    | intro own _ => exact own
  | part member _ ih => exact ih (closed.part member)

/-- Two inputs differ in nothing but the other messages of their batches. -/
structure Input.Twin (input input' : Input) : Prop where
  value : input.value = input'.value
  metadata : input.metadata = input'.metadata
  index : input.index = input'.index
  batch : Option.Rel (Batch.Twin input.index) input.batch input'.batch

namespace Mapping

variable {surroundings surroundings' : Surroundings} {input input' : Input} {draft : Draft}
  {statement : Statement} {statements : List Statement} {mapping : Mapping} {position : Nat}

/-- A statement calls isolated functions only. -/
def IsIsolated (statement : Statement) : Prop :=
  ∀ function, statement.expr.Calls function → function.isIsolated = true

/-- On twins a statement has twins for contexts. -/
theorem context_twin (twin : input.Twin input') (surroundings surroundings' : Surroundings)
    (draft : Draft) :
    (context surroundings input draft).Twin (context surroundings' input' draft) where
  value := twin.value
  outer := rfl
  names := rfl
  root := rfl
  locals := rfl
  metadata := rfl
  index := twin.index
  batch := twin.batch

/-- An isolated statement does the same on twins, whatever the surroundings are. -/
theorem execute_eq (isolated : IsIsolated statement) (twin : input.Twin input') :
    execute surroundings input position statement draft =
      execute surroundings' input' position statement draft := by
  have blind := statement.expr.blind_of_calls isolated [position]
  have same := blind (context_twin twin surroundings surroundings' draft)
  simp only [execute, same]

/-- Isolated statements do the same on twins. -/
theorem executeAll_eq (isolated : ∀ statement ∈ statements, IsIsolated statement)
    (twin : input.Twin input') :
    executeAll surroundings input position draft statements =
      executeAll surroundings' input' position draft statements := by
  -- Each statement takes the same draft to the same next one.
  induction statements generalizing position draft with
  | nil => rfl
  | cons statement rest ih =>
    rw [List.forall_mem_cons] at isolated
    have first : execute surroundings input position statement draft =
        execute surroundings' input' position statement draft := execute_eq isolated.1 twin
    simp only [executeAll, first, ih isolated.2]

/-- An isolated statement does not look at the memory. -/
theorem execute_detached (isolated : IsIsolated statement) :
    Eval.Obeys .detached (execute surroundings input position statement draft) := by
  have detached := statement.expr.detached_of_calls isolated [position]
  refine Discipline.detached.adapt _ (Eval.Obeys.bind (detached _) fun value => ?_)
  exact .ofExcept _

/-- Isolated statements do not look at the memory. -/
theorem executeAll_detached (isolated : ∀ statement ∈ statements, IsIsolated statement) :
    Eval.Obeys .detached (executeAll surroundings input position draft statements) := by
  -- Each statement is executed on the draft that those before it have made.
  induction statements generalizing position draft with
  | nil => exact .pure draft
  | cons statement rest ih =>
    rw [List.forall_mem_cons] at isolated
    exact (execute_detached isolated.1).bind fun draft => ih isolated.2

/-- The inputs that batches with the same message are mapped on are twins. -/
theorem input_twin {index : Nat} {batch batch' : Batch} (twin : Batch.Twin index batch batch')
    (message : Message) :
    Input.Twin ⟨message.value?, message.metadata, some batch, index⟩
      ⟨message.value?, message.metadata, some batch', index⟩ where
  value := rfl
  metadata := rfl
  index := rfl
  batch := .some twin

/-- A mapping of isolated statements does the same in batches with the same message. -/
theorem map_eq (isolated : ∀ statement ∈ mapping.statements, IsIsolated statement) {index : Nat}
    {batch batch' : Batch} (twin : Batch.Twin index batch batch') :
    mapping.map surroundings batch index = mapping.map surroundings' batch' index := by
  unfold map
  rw [← twin.message]
  -- Without a message there is nothing to map; what a draft makes of the value is the same.
  cases batch[index]? with
  | none => rfl
  | some message =>
    have same : executeAll surroundings ⟨message.value?, message.metadata, some batch, index⟩ 0
          ⟨.nothing, message.metadata, []⟩ mapping.statements =
        executeAll surroundings' ⟨message.value?, message.metadata, some batch', index⟩ 0
          ⟨.nothing, message.metadata, []⟩ mapping.statements :=
      executeAll_eq isolated (input_twin twin message)
    simp only [run, start, same]
    rfl

/-- A mapping of isolated statements does not look at the memory. -/
theorem map_detached (isolated : ∀ statement ∈ mapping.statements, IsIsolated statement)
    (surroundings : Surroundings) (batch : Batch) (index : Nat) :
    Eval.Obeys .detached (mapping.map surroundings batch index) := by
  unfold map
  split
  next => exact .failure _
  next message _ =>
    refine Eval.Obeys.bind ((executeAll_detached isolated).map _) fun output => ?_
    -- What is done with the document depends on nothing else.
    dsimp only
    split <;> exact .pure _

/-- What a mapping of the pure standard environment gives for a message is the same in any two
batches of one length that have the message at its place: one result for all surroundings and for
whatever other calls, of this mapping or of any other, have left in the memory, which stays as it
was. -/
theorem isolated_of_compiled (compiled : mapping.Compiled Environment.standard.onlyPure)
    {index : Nat} {batch batch' : Batch} (length : batch.length = batch'.length)
    (message : batch[index]? = batch'[index]?) :
    ∃ result, ∀ surroundings memory,
      (mapping.map surroundings batch index).outcome memory = (result, memory) ∧
        (mapping.map surroundings batch' index).outcome memory = (result, memory) := by
  have isolated : ∀ statement ∈ mapping.statements, IsIsolated statement := by
    intro statement member function calls
    exact Environment.isolated_of_offers ((compiled.scoped statement member).offers calls)
  -- Any surroundings will do, as what happens in all others is the same.
  obtain ⟨result, gives⟩ := (map_detached isolated ⟨[], ⟨0, 0⟩⟩ batch index).outcome_detached
  refine ⟨result, fun surroundings memory => ⟨?_, ?_⟩⟩
  · have same : Batch.Twin index batch batch := ⟨rfl, rfl⟩
    rw [map_eq isolated same]
    exact gives memory
  · have twin : Batch.Twin index batch' batch := ⟨length.symm, message.symm⟩
    rw [map_eq isolated twin]
    exact gives memory

section Sample

/-- The statements `root.at = [batch_index(), batch_size()]` and `root.was = json("a")`. -/
def positioned : Mapping :=
  ⟨[⟨1, .root ["at"], .array [.call .batchIndex [], .call .batchSize []]⟩,
    ⟨2, .root ["was"], .call .json [.value (.string "a")]⟩]⟩

/-- Whether an outcome of compilation is the mapping `positioned`. -/
def isPositioned : Except Error Mapping → Bool
  | .ok ⟨[⟨1, .root ["at"], .array [.call .batchIndex [], .call .batchSize []]⟩,
      ⟨2, .root ["was"], .call .json [.value (.string "a")]⟩]⟩ => true
  | _ => false

/-- The mapping is what its source is compiled to in the pure environment. -/
theorem compiled_positioned : positioned.Compiled Environment.standard.onlyPure := by
  have accepted : isPositioned ((compile Environment.standard.onlyPure
      "root.at = [batch_index(), batch_size()]\nroot.was = json(\"a\")").run.run []).1 = true := by
    decide +kernel
  refine .of_check isPositioned (fun outcome is => ?_) accepted
  unfold isPositioned at is
  split at is <;> first | rfl | cases is

/-- What the mapping makes of the first of two messages does not depend on the second one. -/
theorem isolated_of_compiled_positioned :
    ∃ result, ∀ surroundings memory,
      (positioned.map surroundings [.ofValue (.object [("a", .int 7)]), .ofValue .null] 0).outcome
          memory = (result, memory) ∧
        (positioned.map surroundings [.ofValue (.object [("a", .int 7)]), .ofOctets [0]] 0).outcome
          memory = (result, memory) :=
  isolated_of_compiled compiled_positioned rfl rfl

end Sample

end Mapping

end Reshape
