import Reshape.Eval.Context
import Reshape.Expr.Basic

/-!
Parts: the expressions that an expression is built of, each with the manner in which the context
that it is evaluated in comes from the context of the whole.
-/

namespace Reshape

/-- How the context of a part comes from the context of the whole. -/
inductive Manner where
  /-- It is the same. -/
  | here
  /-- Another value is current. -/
  | narrowed
  /-- The current value has a name, and the value before it is current. -/
  | bound (name : String)
  deriving DecidableEq, Repr

namespace Manner

/-- A part of a whole in one context may be evaluated in another one. -/
def Leads (context inner : Context) : Manner → Prop
  | here => inner = context
  | narrowed => ∃ value, inner = context.narrow value
  | bound name => ∃ value, context.value = some value ∧ inner = context.bind name value

/-- A part of a whole in two contexts may be evaluated in two other ones. -/
def LeadsBoth (context context' inner inner' : Context) : Manner → Prop
  | here => inner = context ∧ inner' = context'
  | narrowed => ∃ value, inner = context.narrow value ∧ inner' = context'.narrow value
  | bound name => ∃ value value', context.value = some value ∧ context'.value = some value' ∧
      inner = context.bind name value ∧ inner' = context'.bind name value'

end Manner

/-- The expression in a slot. -/
def Slot.parts (isScoped : Bool) : Slot Expr → List (Manner × Expr)
  | .absent | .value _ => []
  | .query expr => [(if isScoped then .narrowed else .here, expr)]
  | .dynamic expr => [(.here, expr)]

/-- The expressions in the slots of a call. -/
def Signature.parts (signature : Signature) (slots : List (Slot Expr)) : List (Manner × Expr) :=
  if signature.isVariadic then slots.flatMap (Slot.parts false)
  else (signature.parameters.zip slots).flatMap fun (parameter, slot) =>
    slot.parts parameter.isScoped

/-- A slot holds nothing that is evaluated with a name for the current value. -/
theorem Slot.not_bound {isScoped : Bool} {slot : Slot Expr} {name : String} {part : Expr} :
    (Manner.bound name, part) ∉ slot.parts isScoped := by
  cases slot <;> cases isScoped <;> simp [parts]

/-- A call has no part that is evaluated with a name for the current value. -/
theorem Signature.not_bound {signature : Signature} {slots : List (Slot Expr)} {name : String}
    {part : Expr} : (Manner.bound name, part) ∉ signature.parts slots := by
  unfold parts
  split <;> simp [Slot.not_bound]

/-- The test of a case. -/
def Case.tests : Case Expr → List Expr
  | .wildcard | .equals _ => []
  | .query expr => [expr]

/-- A slot with another expression in it. -/
def Slot.map {ε ε' : Type} (change : ε → ε') : Slot ε → Slot ε'
  | .absent => .absent
  | .value given => .value given
  | .query expr => .query (change expr)
  | .dynamic expr => .dynamic (change expr)

/-- Slots with the expressions that they have are the slots. -/
theorem Slot.map_id_list {ε : Type} (slots : List (Slot ε)) : slots.map (Slot.map id) = slots := by
  refine List.map_id'' (fun slot => ?_) slots
  cases slot <;> rfl

/-- A case with another test. -/
def Case.map {ε ε' : Type} (change : ε → ε') : Case ε → Case ε'
  | .wildcard => .wildcard
  | .equals value => .equals value
  | .query expr => .query (change expr)

namespace Expr

/-- The tests and bodies of rules. -/
def ruleParts (manner : Manner) (rules : List (Case Expr × Expr)) : List (Manner × Expr) :=
  rules.flatMap fun (case, body) => (case.tests ++ [body]).map (manner, ·)

/-- Pairs of expressions. -/
def pairParts (pairs : List (Expr × Expr)) : List (Manner × Expr) :=
  pairs.flatMap fun (first, second) => [(.here, first), (.here, second)]

/-- The parts of an expression. -/
def parts : Expr → List (Manner × Expr)
  | .literal _ | .field .. | .variable .. | .metadata _ => []
  | .get target _ => [(.here, target)]
  | .array items => items.map (.here, ·)
  | .object entries => pairParts entries
  | .binary _ left right | .coalesce left right => [(.here, left), (.here, right)]
  | .not inner | .negate inner => [(.here, inner)]
  | .branches tests otherwise => pairParts tests ++ otherwise.toList.map (.here, ·)
  | .cases none rules => ruleParts .here rules
  | .cases (some subject) rules => (.here, subject) :: ruleParts .narrowed rules
  | .lambda name body => [(.bound name, body)]
  | .call function slots => function.signature.parts slots
  | .method target called slots => (.here, target) :: called.signature.parts slots

/-- An expression with other parts. -/
def mapParts (change : Expr → Expr) : Expr → Expr
  | .literal value => .literal value
  | .field scope path => .field scope path
  | .variable name path => .variable name path
  | .metadata key => .metadata key
  | .get target segment => .get (change target) segment
  | .array items => .array (items.map change)
  | .object entries => .object (entries.map fun (key, value) => (change key, change value))
  | .binary operator left right => .binary operator (change left) (change right)
  | .coalesce left right => .coalesce (change left) (change right)
  | .not inner => .not (change inner)
  | .negate inner => .negate (change inner)
  | .branches tests otherwise =>
    .branches (tests.map fun (test, body) => (change test, change body)) (otherwise.map change)
  | .cases subject rules =>
    .cases (subject.map change) (rules.map fun (case, body) => (case.map change, change body))
  | .lambda name body => .lambda name (change body)
  | .call function slots => .call function (slots.map (Slot.map change))
  | .method target called slots => .method (change target) called (slots.map (Slot.map change))

/-- An expression with the parts that it has is the expression. -/
theorem mapParts_id (expr : Expr) : expr.mapParts id = expr := by
  have unchanged (rules : List (Case Expr × Expr)) :
      rules.map (fun (case, body) => (case.map id, id body)) = rules := by
    refine List.map_id'' (fun rule => ?_) rules
    obtain ⟨case, body⟩ := rule
    cases case <;> rfl
  -- Whatever an expression is built of is passed through as it is.
  cases expr with
  | call function slots => exact congrArg _ (Slot.map_id_list slots)
  | method target called slots => exact congrArg _ (Slot.map_id_list slots)
  | cases subject rules =>
    rw [mapParts, unchanged rules]
    cases subject <;> rfl
  | branches tests otherwise => simp [mapParts]
  | array items => simp [mapParts]
  | object entries => simp [mapParts]
  | _ => rfl

/-- Only the body of a lambda is evaluated with a name for the current value. -/
theorem eq_lambda_of_bound {whole part : Expr} {name : String}
    (member : (Manner.bound name, part) ∈ whole.parts) : whole = .lambda name part := by
  -- No other expression lists a part with a name.
  cases whole with
  | lambda other body => simpa [parts, eq_comm] using member
  | call function slots => exact absurd member Signature.not_bound
  | method target called slots =>
    rcases List.mem_cons.1 member with same | later
    · cases same
    · exact absurd later Signature.not_bound
  | cases subject rules =>
    cases subject <;> simp [parts, ruleParts] at member
  | _ => simp [parts, pairParts] at member

end Expr

end Reshape
