import Reshape.Environment
import Reshape.Proofs.Mapping.Contract

/-!
Failures of mappings: a mapping fails with the error of its first statement that fails. Under the
line of the statement, the error says once where it came from, however deep in an expression it
arose and whatever has been recovered from before.
-/

namespace Reshape

namespace Error

/-- An error that says once where it came from: by the operands that did not match, or by a label in
front of an error that does not say so itself. -/
inductive Traced : Error → Prop where
  | mismatch (operands : Mismatch) : Traced (.mismatch operands)
  | labelled (label : String) {cause : Error} (bare : cause.isPlaced = false) :
      Traced (.labelled label cause)

/-- What evaluation fails with: an error that says where it came from at most once. -/
def Settled (error : Error) : Prop := error.isPlaced = false ∨ error.Traced

/-- Under a label, an error that says where it came from at most once says so once. -/
theorem Settled.label {error : Error} (settled : error.Settled) (label : String) :
    (error.label label).Traced := by
  rcases settled with bare | traced
  · have written : error.label label = .labelled label error := by simp [Error.label, bare]
    exact written ▸ .labelled label bare
  · -- What says so already gets no label in front.
    cases traced with
    | mismatch operands => exact .mismatch operands
    | labelled first bare => exact .labelled first bare

end Error

/-- Any value is data, and an error says where it came from at most once. -/
def Contract.tracing : Contract where
  Data _ := True
  Reported := Error.Settled
  atom _ := trivial
  array _ := by simp
  object _ := by simp
  unplaced := .inl
  mismatch operands := .inr (.mismatch operands)
  labelled label _ bare := .inr (.labelled label bare)

/-- Every input keeps to a contract that takes any value. -/
theorem Input.keeps_tracing (input : Input) : Input.Keeps .tracing input where
  value _ _ := trivial
  metadata _ _ := trivial
  message _ _ _ _ := ⟨fun _ _ => .inr trivial, fun _ _ => trivial⟩

namespace Mapping

variable {surroundings : Surroundings} {input : Input} {before after : Memory}
  {mapping : Mapping} {error : Error}

/-- If a mapping fails, then a run of its statements comes to one that fails. The error is that of
the statement under its line, and its text has one part that says where in the statement it came
from. -/
theorem error_once (compiled : mapping.Compiled Environment.standard)
    (failed : (mapping.run surroundings input).outcome before = (.error error, after)) :
    ∃ done draft memory statement rest inner, Runs surroundings input before done draft memory ∧
      mapping.statements = done.map Prod.fst ++ statement :: rest ∧
      (execute surroundings input done.length statement draft).outcome memory =
        (.error error, after) ∧
      error = .assignment statement.line inner ∧
      error.message = s!"failed assignment (line {statement.line}): {inner.message}" ∧
      ((∃ operands : Mismatch, inner = .mismatch operands ∧ inner.message = operands.message) ∨
        ∃ (label : String) (cause : Error), inner = .labelled label cause ∧
          cause.isPlaced = false ∧ inner.message = s!"{label}: {cause.message}") := by
  obtain ⟨done, draft, memory, statement, rest, runs, all, failed⟩ := run_eq_error_iff.1 failed
  -- What is compiled is plain, so that the error is settled before the statement labels it.
  have plain : ∀ statement ∈ mapping.statements, Expr.Plain .tracing statement.expr :=
    compiled.plain Environment.standard_builtin
  have kept : Draft.Keeps .tracing draft :=
    ⟨.inr trivial, fun _ _ => trivial, fun _ _ => trivial⟩
  obtain ⟨inner, settled, same⟩ := error_of_execute (plain statement (by simp [all]))
    input.keeps_tracing kept (fun _ _ _ _ _ => trivial) failed
  have once := settled.label statement.expr.label
  generalize inner.label statement.expr.label = traced at same once
  subst same
  refine ⟨done, draft, memory, statement, rest, traced, runs, all, failed, rfl, rfl, ?_⟩
  cases once with
  | mismatch operands => exact .inl ⟨operands, rfl, rfl⟩
  | labelled label bare => exact .inr ⟨label, _, rfl, bare, rfl⟩

section Sample

/-- The statements `let a = 1` and `root.b = [$a, {"c": this.d}]`. -/
def nestedRead : Mapping :=
  ⟨[⟨1, .variable "a", .literal (.int 1)⟩,
    ⟨2, .root ["b"], .array [.variable "a" [],
      .object [(.literal (.string "c"), .field .current ["d"])]]⟩]⟩

/-- Whether an outcome of compilation is the mapping `nestedRead`. -/
def isNestedRead : Except Error Mapping → Bool
  | .ok ⟨[⟨1, .variable "a", .literal (.int 1)⟩,
      ⟨2, .root ["b"], .array [.variable "a" [],
        .object [(.literal (.string "c"), .field .current ["d"])]]⟩]⟩ => true
  | _ => false

/-- The mapping is what its source is compiled to. -/
theorem compiled_nestedRead : nestedRead.Compiled Environment.standard := by
  have accepted : isNestedRead ((compile Environment.standard
      "let a = 1\nroot.b = [$a, \x7b\"c\": this.d\x7d]").run.run []).1 = true := by
    decide +kernel
  refine .of_check isNestedRead (fun outcome is => ?_) accepted
  unfold isNestedRead at is
  split at is <;> first | rfl | cases is

/-- Without an input, a field that is read inside an array and an object is reported with its own
label and the line of the statement. -/
theorem error_once_of_nestedRead :
    ∃ done draft memory statement rest inner,
      Runs ⟨[], ⟨0, 0⟩⟩ ⟨none, [], none, 0⟩ (.fresh (.seeded 0)) done draft memory ∧
      nestedRead.statements = done.map Prod.fst ++ statement :: rest ∧
      (execute ⟨[], ⟨0, 0⟩⟩ ⟨none, [], none, 0⟩ done.length statement draft).outcome memory =
        (.error (.assignment 2 (.labelled "field `this.d`" (.noContext "d"))),
          .fresh (.seeded 0)) ∧
      Error.assignment 2 (.labelled "field `this.d`" (.noContext "d")) =
        .assignment statement.line inner ∧
      (Error.assignment 2 (.labelled "field `this.d`" (.noContext "d"))).message =
        s!"failed assignment (line {statement.line}): {inner.message}" ∧
      ((∃ operands : Mismatch, inner = .mismatch operands ∧ inner.message = operands.message) ∨
        ∃ (label : String) (cause : Error), inner = .labelled label cause ∧
          cause.isPlaced = false ∧ inner.message = s!"{label}: {cause.message}") :=
  error_once compiled_nestedRead rfl

end Sample

end Mapping

end Reshape
