import Reshape.Environment
import Reshape.Proofs.Mapping.Contract
import Reshape.Proofs.Mapping.Deletion

/-!
Markers in what a mapping makes: if its input has no markers in it, then neither has the document,
the metadata or a variable, unless a marker is put into another value as an argument of `append` or
`merge`, as the target of `merge`, or as the tally of a fold. These operations store what they are
given as it is.
-/

namespace Reshape

/-- A value with no marker in it at any depth. -/
inductive Value.Unmarked : Value → Prop where
  | atom {value : Value} (atomic : value.isAtom = true) : Unmarked value
  | array {items : List Value} (each : ∀ item ∈ items, Unmarked item) : Unmarked (.array items)
  | object {fields : Fields Value} (each : ∀ field ∈ fields, Unmarked field.2) :
      Unmarked (.object fields)

/-- An array is unmarked exactly if its items are. -/
theorem Value.unmarked_array (items : List Value) :
    (Value.array items).Unmarked ↔ ∀ item ∈ items, item.Unmarked := by
  constructor
  -- The rules of a contract are told apart by the kind of the value.
  · intro unmarked
    cases unmarked with
    | atom atomic => cases atomic
    | array each => exact each
  · exact .array

/-- An object is unmarked exactly if the values of its fields are. -/
theorem Value.unmarked_object (fields : Fields Value) :
    (Value.object fields).Unmarked ↔ ∀ field ∈ fields, field.2.Unmarked := by
  constructor
  · intro unmarked
    cases unmarked with
    | atom atomic => cases atomic
    | object each => exact each
  · exact .object

/-- Data is what has no marker in it, and any error may be reported. -/
def Contract.unmarked : Contract where
  Data := Value.Unmarked
  Reported _ := True
  atom := .atom
  array := Value.unmarked_array
  object := Value.unmarked_object
  unplaced _ := trivial
  mismatch _ := trivial
  labelled _ _ _ := trivial

namespace Mapping

variable {surroundings : Surroundings} {input : Input} {before after : Memory}
  {mapping : Mapping} {result : Output}

/-- Markers do not become data. Let whatever is put into another value have no marker in it; then a
mapping of an input without markers asks to delete the message, or gives no document because there
is none to give, or makes a document without markers. Its metadata, and the variables after every
statement, have none either. -/
theorem unmarked_of_run (compiled : mapping.Compiled Environment.standard)
    (given : Input.Keeps .unmarked input)
    (stored : mapping.StoresData .unmarked surroundings input before)
    (succeeds : (mapping.run surroundings input).outcome before = (.ok result, after)) :
    (result.root = .delete ∨
        (result.root = .nothing ∧ input.value = none ∧
          ∃ done draft, Runs surroundings input before done draft after ∧
            done.map Prod.fst = mapping.statements ∧ ∀ entry ∈ done, ¬ entry.GivesRoot) ∨
        result.root.Unmarked) ∧
      (∀ field ∈ result.metadata, field.2.Unmarked) ∧
      ∀ done draft memory rest, Runs surroundings input before done draft memory →
        mapping.statements = done.map Prod.fst ++ rest →
          ∀ field ∈ draft.locals, field.2.Unmarked := by
  have plain : ∀ statement ∈ mapping.statements, Expr.Plain .unmarked statement.expr :=
    compiled.plain Environment.standard_builtin
  obtain ⟨done, draft, runs, all, rfl⟩ := run_eq_ok_iff.1 succeeds
  have whole : mapping.statements = done.map Prod.fst ++ [] := by simp [all]
  have kept := runs.keeps plain given stored whole
  refine ⟨?_, kept.metadata, fun done draft memory rest runs split =>
    (runs.keeps plain given stored split).locals⟩
  by_cases untouched : draft.root = .nothing
  · -- The document is that of the input, if it has one.
    have none := runs.root_eq_nothing_iff.1 untouched
    cases value : input.value with
    | some document =>
      have root : (output input draft).root = document := by simp [output, untouched, value]
      exact .inr (.inr (root ▸ given.value document value))
    | none =>
      have root : (output input draft).root = .nothing := by simp [output, untouched, value]
      exact .inr (.inl ⟨root, rfl, done, draft, runs, all, none⟩)
  · have own : (output input draft).root = draft.root := by simp only [output]
    rw [own]
    by_cases deleted : draft.root = .delete
    · exact .inl deleted
    · exact .inr (.inr (Draft.data_of_result kept.root untouched deleted))

section Sample

/-- The expression `this.b | deleted()`. -/
def Expr.optionalField : Expr := .coalesce (.field .current ["b"]) (.call .deleted [])

/-- The expression `[1].append(this.b | deleted())`. -/
def Expr.appendsOptional : Expr :=
  .method (.literal (.array [.int 1])) .append [.dynamic Expr.optionalField]

/-- The statement `root.a = [1].append(this.b | deleted())`. -/
def appendsOptional : Mapping := ⟨[⟨1, .root ["a"], Expr.appendsOptional⟩]⟩

/-- Whether an outcome of compilation is the mapping `appendsOptional`. -/
def isAppendsOptional : Except Error Mapping → Bool
  | .ok ⟨[⟨1, .root ["a"], .method (.literal (.array [.int 1])) .append
      [.dynamic (.coalesce (.field .current ["b"]) (.call .deleted []))]⟩]⟩ => true
  | _ => false

/-- The mapping is what its source is compiled to. -/
theorem compiled_appendsOptional : appendsOptional.Compiled Environment.standard := by
  have accepted : isAppendsOptional ((compile Environment.standard
      "root.a = [1].append(this.b | deleted())").run.run []).1 = true := by
    decide +kernel
  refine .of_check isAppendsOptional (fun outcome is => ?_) accepted
  unfold isAppendsOptional at is
  split at is <;> first | rfl | cases is

/-- An input of an object with given fields. -/
def objectInput (fields : Fields Value) : Input := ⟨some (.object fields), [], none, 0⟩

/-- An input of fields without markers is one without markers. -/
theorem objectInput_unmarked {fields : Fields Value} (each : ∀ field ∈ fields, field.2.Unmarked) :
    Input.Keeps .unmarked (objectInput fields) where
  value value known := Option.some.inj known ▸ .object each
  metadata := by simp [objectInput]
  message := by simp [objectInput]

/-- Only the whole of the expression stores anything. -/
theorem stores_appendsOptional {context at' : Context} {inner : Expr} {value : Value}
    (evaluates : Evaluates Expr.appendsOptional context inner at')
    (stores : inner.Stores at' value) : Expr.appendsOptional.Stores context value := by
  -- Whatever else is evaluated is no call of a method.
  have reached : (inner = Expr.appendsOptional ∧ at' = context) ∨
      inner ∈ [.literal (.array [.int 1]), Expr.optionalField, .field .current ["b"],
        .call .deleted []] := by
    clear stores
    induction evaluates with
    | start => exact .inl ⟨rfl, rfl⟩
    | @part outer inner manner context at' _ member leads ih =>
      have whole : Expr.appendsOptional.parts =
        [(.here, .literal (.array [.int 1])), (.here, Expr.optionalField)] := rfl
      have option : Expr.optionalField.parts =
        [(.here, .field .current ["b"]), (.here, .call .deleted [])] := rfl
      have call : (Expr.call .deleted []).parts = [] := rfl
      rcases ih with ⟨rfl, rfl⟩ | earlier
      · rw [whole] at member
        rcases List.mem_pair.1 member with ⟨⟨⟩⟩ | ⟨⟨⟩⟩ <;> simp
      · simp only [List.mem_cons, List.not_mem_nil, or_false] at earlier
        rcases earlier with rfl | rfl | rfl | rfl
        · cases member
        · rw [option] at member
          rcases List.mem_pair.1 member with ⟨⟨⟩⟩ | ⟨⟨⟩⟩ <;> simp
        · cases member
        · rw [call] at member
          cases member
  rcases reached with ⟨rfl, rfl⟩ | other
  · exact stores
  · simp only [List.mem_cons, List.not_mem_nil, or_false] at other
    rcases other with rfl | rfl | rfl | rfl <;> cases stores

/-- With a field to append, no marker is put into another value. -/
theorem storesData_appendsOptional : appendsOptional.StoresData .unmarked ⟨[], ⟨0, 0⟩⟩
    (objectInput [("b", .int 2)]) (.fresh (.seeded 0)) := by
  intro done draft memory statement rest runs split inner at' value evaluates stores
  -- There is one statement, and what it stores is the argument of the call.
  have first : done = [] ∧ statement = ⟨1, .root ["a"], Expr.appendsOptional⟩ := by
    cases done with
    | nil =>
      have only : statement = ⟨1, .root ["a"], Expr.appendsOptional⟩ ∧ rest = [] := by
        simpa [appendsOptional, eq_comm] using split
      exact ⟨rfl, only.1⟩
    | cons entry done => simp [appendsOptional] at split
  obtain ⟨rfl, rfl⟩ := first
  cases stores_appendsOptional evaluates stores with
  | @argument _ _ _ bound _ binds member =>
    obtain ⟨site, position, memory, given⟩ := binds
    obtain rfl : (⟨[], [], [.value (.int 2)]⟩ : Bound Query) = bound :=
      Except.ok.inj (Eq.trans rfl given)
    obtain rfl : value = .int 2 := by simpa [Method.stored, Bound.values] using member
    exact .atom rfl

/-- The output with a field of two items. -/
def appended (item : Value) : Output := ⟨.object [("a", .array [.int 1, item])], []⟩

/-- The field is appended to the array. -/
theorem unmarked_of_run_appending :
    ((appended (.int 2)).root = .delete ∨
        ((appended (.int 2)).root = .nothing ∧ (objectInput [("b", .int 2)]).value = none ∧
          ∃ done draft, Runs ⟨[], ⟨0, 0⟩⟩ (objectInput [("b", .int 2)]) (.fresh (.seeded 0)) done
              draft (.fresh (.seeded 0)) ∧
            done.map Prod.fst = appendsOptional.statements ∧
            ∀ entry ∈ done, ¬ entry.GivesRoot) ∨
        (appended (.int 2)).root.Unmarked) ∧
      (∀ field ∈ (appended (.int 2)).metadata, field.2.Unmarked) ∧
      ∀ done draft memory rest,
        Runs ⟨[], ⟨0, 0⟩⟩ (objectInput [("b", .int 2)]) (.fresh (.seeded 0)) done draft memory →
        appendsOptional.statements = done.map Prod.fst ++ rest →
          ∀ field ∈ draft.locals, field.2.Unmarked :=
  unmarked_of_run compiled_appendsOptional (objectInput_unmarked (by simpa using .atom rfl))
    storesData_appendsOptional rfl

/-- Without the field, the marker to delete is appended, and is in the document that is made. -/
theorem not_unmarked :
    appendsOptional.Compiled Environment.standard ∧
      Input.Keeps .unmarked (objectInput []) ∧
      (appendsOptional.run ⟨[], ⟨0, 0⟩⟩ (objectInput [])).outcome (.fresh (.seeded 0)) =
        (.ok (appended .delete), .fresh (.seeded 0)) ∧
      (appended .delete).root ≠ .delete ∧ (appended .delete).root ≠ .nothing ∧
      ¬ (appended .delete).root.Unmarked := by
  refine ⟨compiled_appendsOptional, objectInput_unmarked (by simp), rfl, by simp [appended],
    by simp [appended], fun unmarked => ?_⟩
  -- The marker is an item of the array that was appended to.
  have items := (Value.unmarked_object _).1 unmarked ("a", .array [.int 1, .delete]) (by simp)
  have item := (Value.unmarked_array _).1 items .delete (by simp)
  cases item with
  | atom atomic => cases atomic

end Sample

end Mapping

end Reshape
