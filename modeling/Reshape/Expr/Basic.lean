import Reshape.Builtin.Function
import Reshape.Builtin.Method
import Reshape.Call.Binding
import Reshape.Expr.Operator

/-!
Expressions: the trees that sources are compiled to. Names are resolved and arguments are bound, so
that a tree can be evaluated and analysed by recursion on it.
-/

namespace Reshape

/-- What a path starts from. -/
inductive Scope where
  /-- The current value. -/
  | current
  /-- The document under construction. -/
  | root
  /-- The value that a lambda binds to a name. -/
  | named (name : String)
  deriving DecidableEq, Repr

/-- When a case applies. -/
inductive Case (ε : Type) where
  /-- Always. -/
  | wildcard
  /-- If the current value equals a constant. -/
  | equals (value : Value)
  /-- If the expression is true, or equals the current value. -/
  | query (expr : ε)
  deriving Repr

/-- An expression. -/
inductive Expr where
  | literal (value : Value)
  | field (scope : Scope) (path : List String)
  | variable (name : String) (path : List String)
  /-- One key of the metadata as assigned so far, or all of it. -/
  | metadata (key : Option String)
  /-- A part of what another expression gives. -/
  | get (target : Expr) (segment : String)
  | array (items : List Expr)
  | object (entries : List (Expr × Expr))
  | binary (operator : Operator) (left right : Expr)
  | coalesce (left right : Expr)
  | not (inner : Expr)
  | negate (inner : Expr)
  /-- Conditions and what applies if they are the first to hold, and what applies otherwise. -/
  | branches (branches : List (Expr × Expr)) (otherwise : Option Expr)
  | cases (subject : Option Expr) (cases : List (Case Expr × Expr))
  /-- Binds the current value to a name, and restores the value that was current before. -/
  | lambda (name : String) (body : Expr)
  | call (function : Function) (slots : List (Slot Expr))
  | method (target : Expr) (method : Method) (slots : List (Slot Expr))
  deriving Repr

namespace Expr

/-- A path of names with what it starts from. -/
def rendered (base : String) (path : List String) : String :=
  ".".intercalate (base :: path)

/-- The constant that an expression is, if it is a literal. -/
def literal? : Expr → Option Value
  | .literal value => some value
  | _ => none

/-- The label of an expression in errors. -/
def label : Expr → String
  | .literal value => s!"{value.typeName} literal"
  | .field scope path =>
    let base := match scope with
      | .current => "this"
      | .root => "root"
      | .named name => name
    let path := rendered base path
    s!"field `{path}`"
  | .variable name path =>
    let path := rendered name path
    s!"variable `${path}`"
  | .metadata (some key) => s!"metadata value `@{key}`"
  | .metadata none => "metadata object"
  | .get target segment => s!"field `.{segment}` of {target.label}"
  | .array _ => "array literal"
  | .object _ => "object literal"
  | .binary operator _ _ => s!"`{operator.symbol}` expression"
  | .coalesce left _ => s!"coalesce of {left.label}"
  | .not inner => s!"not {inner.label}"
  | .negate inner => s!"negated {inner.label}"
  | .branches .. => "if expression"
  | .cases .. => "match expression"
  | .lambda name _ => s!"lambda `{name}`"
  | .call function _ => s!"function `{function.name}`"
  | .method _ called _ => s!"method `{called.name}`"

instance : Bindable Expr where
  literal? := literal?
  label := label
  ofLiteral := .literal

/-- The expression with a segment behind it: the paths of references grow. -/
def child (segment : String) : Expr → Expr
  | .field scope path => .field scope (path ++ [segment])
  | .variable name path => .variable name (path ++ [segment])
  | expr => .get expr segment

end Expr

end Reshape
