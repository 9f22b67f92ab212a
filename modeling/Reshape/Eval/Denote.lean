import Reshape.Eval.Call

/-!
The meaning of expressions, by recursion on them. Each part of an expression has a site of its own:
the site of the expression with the position of the part in front.
-/

namespace Reshape

namespace Expr

mutual

/-- The meaning of an expression at a site. -/
def denote (site : Site) : Expr → Query
  | .literal value => .constant value
  | .field scope path => ⟨.field scope path, Query.field scope path⟩
  | .variable name path => ⟨.variable name path, Query.variableAt name path⟩
  | .metadata key => ⟨.metadata key, fun context => pure (Query.metadata key context)⟩
  | .get target segment =>
    let query := denote (0 :: site) target
    ⟨.get target segment, fun context => do
      return (← query.read context).getOrNull [segment]⟩
  | .array items =>
    let queries := denoteAll site 0 items
    ⟨.array items, fun context => do return .array (← Query.items context queries)⟩
  | .object entries =>
    let queries := denotePairs site 0 entries
    ⟨.object entries, fun context => do return .object (← Query.fields context [] queries)⟩
  | .binary operator left right =>
    ⟨.binary operator left right,
      Query.binary operator (denote (0 :: site) left) (denote (1 :: site) right)⟩
  | .coalesce left right =>
    ⟨.coalesce left right, Query.coalesce (denote (0 :: site) left) (denote (1 :: site) right)⟩
  | .not inner =>
    let query := denote (0 :: site) inner
    ⟨.not inner, fun context => do return .bool !(← query.truth context)⟩
  | .negate inner => ⟨.negate inner, Query.negate (denote (0 :: site) inner)⟩
  | .branches tests otherwise =>
    let queries := denotePairs site 1 tests
    let last := denoteOption (0 :: site) otherwise
    ⟨.branches tests otherwise, fun context => Query.branches last context queries⟩
  | .cases subject rules =>
    let queries := denoteCases site 1 rules
    let narrowed := denoteOption (0 :: site) subject
    ⟨.cases subject rules, fun context => do
      match narrowed with
      | some query => Query.cases (context.narrow (← query.read context)) queries
      | none => Query.cases context queries⟩
  | .lambda name body => ⟨.lambda name body, Query.lambda name (denote (0 :: site) body)⟩
  | .call function slots =>
    ⟨.call function slots, Query.function site function (denoteSlots site 0 slots)⟩
  | .method target called slots =>
    ⟨.method target called slots,
      Query.method (denote (0 :: site) target) called (denoteSlots site 1 slots)⟩

/-- The meaning of an optional expression. -/
def denoteOption (site : Site) : Option Expr → Option Query
  | none => none
  | some expr => some (denote site expr)

/-- The meanings of expressions that are parts from a position on. -/
def denoteAll (site : Site) (position : Nat) : List Expr → List Query
  | [] => []
  | expr :: rest => denote (position :: site) expr :: denoteAll site (position + 1) rest

/-- The meanings of pairs of expressions. -/
def denotePairs (site : Site) (position : Nat) : List (Expr × Expr) → List (Query × Query)
  | [] => []
  | (first, second) :: rest =>
    (denote (position :: site) first, denote ((position + 1) :: site) second) ::
      denotePairs site (position + 2) rest

/-- The meaning of a case. -/
def denoteCase (site : Site) : Case Expr → Case Query
  | .wildcard => .wildcard
  | .equals value => .equals value
  | .query expr => .query (denote site expr)

/-- The meanings of cases and of what applies in them. -/
def denoteCases (site : Site) (position : Nat) :
    List (Case Expr × Expr) → List (Case Query × Query)
  | [] => []
  | (case, body) :: rest =>
    (denoteCase (position :: site) case, denote ((position + 1) :: site) body) ::
      denoteCases site (position + 2) rest

/-- The meaning of a slot. -/
def denoteSlot (site : Site) : Slot Expr → Slot Query
  | .absent => .absent
  | .value value => .value value
  | .query expr => .query (denote site expr)
  | .dynamic expr => .dynamic (denote site expr)

/-- The meanings of slots. -/
def denoteSlots (site : Site) (position : Nat) : List (Slot Expr) → List (Slot Query)
  | [] => []
  | slot :: rest =>
    denoteSlot (position :: site) slot :: denoteSlots site (position + 1) rest

end

/-- The meaning of an expression is one of that expression. -/
theorem expr_denote (site : Site) (expr : Expr) : (expr.denote site).expr = expr := by
  cases expr <;> rfl

end Expr

end Reshape
