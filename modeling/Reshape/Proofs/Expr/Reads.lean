import Reshape.Catalog.Functions
import Reshape.Expr.Dependency
import Reshape.Proofs.Eval.Truth
import Reshape.Proofs.Expr.Part

/-!
Reads: the inputs that an expression reads. A place is followed as the evaluator gets there: a query
on an element has a value that was computed before, and a lambda turns back to the value around it.
Nothing is read of a value that was computed, as whatever it was computed from has been read.
-/

namespace Reshape

/-- Where a value comes from. -/
inductive Provenance where
  /-- It is given with the context that evaluation starts in. -/
  | input
  /-- It was computed on the way. -/
  | computed
  deriving DecidableEq, Repr

/-- Where the values in a context come from. -/
structure Sight where
  current : Provenance
  /-- The values that were current before, the last one first; those before them are given. -/
  outer : List Provenance
  /-- The values that lambdas have named, the last one first. -/
  names : List (String × Provenance)
  deriving DecidableEq, Repr

namespace Sight

/-- What is seen where evaluation starts. -/
def document : Sight := ⟨.input, [], []⟩

/-- What is seen with another current value. -/
def narrow (sight : Sight) : Sight :=
  { sight with current := .computed, outer := sight.current :: sight.outer }

/-- What is seen with a name for the current value, and with the value that was current before. -/
def bind (sight : Sight) (name : String) : Sight :=
  ⟨sight.outer.headD .input, sight.outer.tail, (name, sight.current) :: sight.names⟩

end Sight

/-- What is seen where a part is evaluated. -/
def Manner.sees (sight : Sight) : Manner → Sight
  | here => sight
  | narrowed => sight.narrow
  | bound name => sight.bind name

/-- The inputs that a function may read by itself if its arguments are not known. -/
def Function.anywhere : Function → List Dependency
  | .json => [⟨.value, []⟩]
  | .incoming | .working => [⟨.metadata, []⟩]
  | .var => [⟨.variable, []⟩]
  | _ => []

/-- The result of a function depends on its arguments, the document, metadata and variables only. -/
def Function.isSteady (function : Function) : Bool :=
  !function.notes.isImpure && match function with
    | .content | .batchIndex | .batchSize | .tracingId | .tracingSpan => false
    | _ => true

/-- A case may compare the current value with another one. -/
def Case.compares : Case Expr → Bool
  | .wildcard => false
  | .equals _ => true
  | .query test => !test.isTruth

/-- An expression reads an input, if a part of what it gives is wanted. -/
inductive Expr.Reads : Sight → List String → Expr → Dependency → Prop where
  | current {sight : Sight} {wanted path : List String} (given : sight.current = .input) :
      Reads sight wanted (.field .current path) ⟨.value, path ++ wanted⟩
  | named {sight : Sight} {wanted path : List String} {name : String}
      (given : sight.names.lookup name = some .input) :
      Reads sight wanted (.field (.named name) path) ⟨.value, path ++ wanted⟩
  | root {sight : Sight} {wanted path : List String} :
      Reads sight wanted (.field .root path) ⟨.root, path ++ wanted⟩
  | variable {sight : Sight} {wanted path : List String} {name : String} :
      Reads sight wanted (.variable name path) ⟨.variable, name :: path ++ wanted⟩
  | metadata {sight : Sight} {wanted : List String} {key : Option String} :
      Reads sight wanted (.metadata key) ⟨.metadata, key.toList ++ wanted⟩
  /-- A match without a subject may compare the current value with its cases. -/
  | compared {sight : Sight} {wanted : List String} {rules : List (Case Expr × Expr)}
      {rule : Case Expr × Expr} (member : rule ∈ rules) (compares : rule.1.compares = true)
      (given : sight.current = .input) : Reads sight wanted (.cases none rules) ⟨.value, []⟩
  /-- A function whose arguments are known reads the inputs that they tell. -/
  | known {sight : Sight} {wanted : List String} {function : Function} {slots : List (Slot Expr)}
      {input : Dependency} (member : input ∈ function.inputs slots) :
      Reads sight wanted (.call function slots) (input.child wanted)
  /-- A function whose arguments are not known may read any input of its kind. -/
  | unknown {sight : Sight} {wanted : List String} {function : Function}
      {slots : List (Slot Expr)} {input : Dependency}
      (dynamic : (function.signature.attach slots).isDynamic = true)
      (member : input ∈ function.anywhere) : Reads sight wanted (.call function slots) input
  /-- Only a part of the target is wanted. -/
  | get {sight : Sight} {wanted : List String} {target : Expr} {segment : String}
      {input : Dependency} (reads : Reads sight (segment :: wanted) target input) :
      Reads sight wanted (.get target segment) input
  /-- Of any other expression, all of each part is wanted. -/
  | part {sight : Sight} {wanted : List String} {whole inner : Expr} {manner : Manner}
      {input : Dependency} (member : (manner, inner) ∈ whole.parts)
      (plain : ∀ target segment, whole ≠ .get target segment)
      (reads : Reads (manner.sees sight) [] inner input) : Reads sight wanted whole input

/-- An expression calls a function somewhere. -/
inductive Expr.Calls : Expr → Function → Prop where
  | here (function : Function) (slots : List (Slot Expr)) : Calls (.call function slots) function
  | part {whole inner : Expr} {manner : Manner} {function : Function}
      (member : (manner, inner) ∈ whole.parts) (calls : Calls inner function) :
      Calls whole function

/-- An input is a part of one of others. -/
def Dependency.CoveredBy (dependencies : List Dependency) (input : Dependency) : Prop :=
  ∃ covering ∈ dependencies, covering.origin = input.origin ∧ covering.path <+: input.path

section Induction

/-- The expression in a slot is smaller than the slot. -/
theorem Slot.sizeOf_parts {isScoped : Bool} {slot : Slot Expr} {manner : Manner} {part : Expr}
    (member : (manner, part) ∈ slot.parts isScoped) : sizeOf part < sizeOf slot := by
  -- Only these two slots hold an expression.
  cases slot with
  | query expr | dynamic expr =>
    obtain ⟨_, rfl⟩ := Prod.mk.inj (List.mem_singleton.1 member)
    simp
  | _ => cases member

/-- The expressions in slots are smaller than the slots. -/
theorem Signature.sizeOf_parts {signature : Signature} {slots : List (Slot Expr)} {manner : Manner}
    {part : Expr} (member : (manner, part) ∈ signature.parts slots) :
    sizeOf part < sizeOf slots := by
  unfold parts at member
  -- A part stands in one of the slots, whether they belong to parameters or not.
  split at member
  · obtain ⟨slot, inside, member⟩ := List.mem_flatMap.1 member
    exact Nat.lt_trans (Slot.sizeOf_parts member) (List.sizeOf_lt_of_mem inside)
  · obtain ⟨⟨parameter, slot⟩, inside, member⟩ := List.mem_flatMap.1 member
    exact Nat.lt_trans (Slot.sizeOf_parts member)
      (List.sizeOf_lt_of_mem (List.of_mem_zip inside).2)

namespace Expr

/-- The expressions in pairs are smaller than the pairs. -/
theorem sizeOf_pairParts {pairs : List (Expr × Expr)} {manner : Manner} {part : Expr}
    (member : (manner, part) ∈ pairParts pairs) : sizeOf part < sizeOf pairs := by
  -- A part is the first or the second expression of one of the pairs.
  obtain ⟨⟨first, second⟩, inside, member⟩ := List.mem_flatMap.1 member
  have smaller := List.sizeOf_lt_of_mem inside
  simp only [Prod.mk.sizeOf_spec] at smaller
  simp only [List.mem_cons, Prod.mk.injEq, List.not_mem_nil, or_false] at member
  obtain ⟨_, rfl⟩ | ⟨_, rfl⟩ := member <;> omega

/-- The expressions in rules are smaller than the rules. -/
theorem sizeOf_ruleParts {manner manner' : Manner} {rules : List (Case Expr × Expr)} {part : Expr}
    (member : (manner', part) ∈ ruleParts manner rules) : sizeOf part < sizeOf rules := by
  obtain ⟨⟨case, body⟩, inside, member⟩ := List.mem_flatMap.1 member
  have smaller := List.sizeOf_lt_of_mem inside
  simp only [Prod.mk.sizeOf_spec] at smaller
  obtain ⟨expr, among, same⟩ := List.mem_map.1 member
  obtain ⟨_, rfl⟩ := Prod.mk.inj same
  -- A part is the test of one of the rules or its body.
  obtain test | last := List.mem_append.1 among
  · cases case with
    | query test' =>
      obtain rfl := List.mem_singleton.1 test
      simp only [Case.query.sizeOf_spec] at smaller
      omega
    | _ => cases test
  · obtain rfl := List.mem_singleton.1 last
    omega

/-- A part is smaller than the whole. -/
theorem sizeOf_parts {whole part : Expr} {manner : Manner} (member : (manner, part) ∈ whole.parts) :
    sizeOf part < sizeOf whole := by
  -- Parts stand in the arguments of the constructor, perhaps in a list.
  cases whole with
  | array items =>
    obtain ⟨item, inside, same⟩ := List.mem_map.1 member
    obtain ⟨_, rfl⟩ := Prod.mk.inj same
    have smaller := List.sizeOf_lt_of_mem inside
    simp only [array.sizeOf_spec]
    omega
  | object entries =>
    have smaller := sizeOf_pairParts member
    simp only [object.sizeOf_spec]
    omega
  | branches tests otherwise =>
    simp only [branches.sizeOf_spec]
    rcases List.mem_append.1 member with test | last
    · have smaller := sizeOf_pairParts test
      omega
    · cases otherwise with
      | none => cases last
      | some body =>
        obtain ⟨_, rfl⟩ := Prod.mk.inj (List.mem_singleton.1 last)
        simp only [Option.some.sizeOf_spec]
        omega
  | cases subject rules =>
    simp only [cases.sizeOf_spec]
    cases subject with
    | none =>
      have smaller := sizeOf_ruleParts member
      omega
    | some subject =>
      simp only [Option.some.sizeOf_spec]
      rcases List.mem_cons.1 member with same | later
      · obtain ⟨_, rfl⟩ := Prod.mk.inj same
        omega
      · have smaller := sizeOf_ruleParts later
        omega
  | call function slots =>
    have smaller := Signature.sizeOf_parts member
    simp only [call.sizeOf_spec]
    omega
  | method target called slots =>
    simp only [method.sizeOf_spec]
    rcases List.mem_cons.1 member with same | later
    · obtain ⟨_, rfl⟩ := Prod.mk.inj same
      omega
    · have smaller := Signature.sizeOf_parts later
      omega
  | get _ _ | not _ | negate _ | lambda _ _ =>
    obtain ⟨_, rfl⟩ := Prod.mk.inj (List.mem_singleton.1 member)
    simp <;> omega
  | binary _ _ _ | coalesce _ _ =>
    simp only [parts, List.mem_cons, Prod.mk.injEq, List.not_mem_nil, or_false] at member
    simp only [binary.sizeOf_spec, coalesce.sizeOf_spec]
    obtain ⟨_, rfl⟩ | ⟨_, rfl⟩ := member <;> omega
  | _ => cases member

/-- What holds of an expression if it holds of its parts holds of every expression. -/
theorem induction_parts {motive : Expr → Prop}
    (step : ∀ whole, (∀ manner part, (manner, part) ∈ whole.parts → motive part) → motive whole)
    (expr : Expr) : motive expr :=
  step expr fun _ part _ => induction_parts step part
termination_by sizeOf expr
decreasing_by exact sizeOf_parts ‹_›

end Expr

end Induction

end Reshape
