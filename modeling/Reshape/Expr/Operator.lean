/-!
Operators between two operands: their symbols, the verbs that messages use for them, and how tightly
they bind.
-/

namespace Reshape

/-- An operator that works on the values of both operands. -/
inductive Operator where
  | add
  | subtract
  | multiply
  | divide
  | remainder
  | equal
  | unequal
  | greater
  | greaterEqual
  | less
  | lessEqual
  | and
  | or
  deriving DecidableEq, Repr

namespace Operator

/-- The symbol of an operator. -/
def symbol : Operator → String
  | .add => "+"
  | .subtract => "-"
  | .multiply => "*"
  | .divide => "/"
  | .remainder => "%"
  | .equal => "=="
  | .unequal => "!="
  | .greater => ">"
  | .greaterEqual => ">="
  | .less => "<"
  | .lessEqual => "<="
  | .and => "&&"
  | .or => "||"

/-- All operators. -/
def all : List Operator :=
  [.add, .subtract, .multiply, .divide, .remainder, .equal, .unequal, .greater, .greaterEqual,
    .less, .lessEqual, .and, .or]

/-- The operator of a symbol. -/
def ofSymbol? (symbol : String) : Option Operator :=
  all.find? fun operator => operator.symbol == symbol

/-- What messages say the operator does to its operands. -/
def verb : Operator → String
  | .add => "add"
  | .subtract => "subtract"
  | .multiply => "multiply"
  | .divide => "divide"
  | .remainder => "modulo"
  | .and | .or => "combine"
  | _ => "compare"

end Operator

/-- A sign between two operands. -/
inductive Sign where
  /-- The first operand unless it fails or has no value, and else the second. -/
  | coalesce
  | operator (operator : Operator)
  deriving DecidableEq, Repr

/-- How tightly a sign binds: the higher, the tighter. -/
def Sign.precedence : Sign → Nat
  | .coalesce => 1
  | .operator .or => 2
  | .operator .and => 3
  | .operator .add | .operator .subtract => 5
  | .operator .multiply | .operator .divide | .operator .remainder => 6
  | .operator _ => 4

/-- A sign before an operand. -/
inductive PrefixSign where
  | not
  | negate
  deriving DecidableEq, Repr

end Reshape
