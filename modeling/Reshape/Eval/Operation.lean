import Reshape.Error
import Reshape.Expr.Operator
import Reshape.Value.Arithmetic

/-! What operators do to the values of their operands. -/

namespace Reshape.Operator

/-- Whether an order between two numbers or strings is what a comparison asks for. -/
def accepts (operator : Operator) (order : Ordering) : Bool :=
  match operator with
  | .greater => order == .gt
  | .greaterEqual => order != .lt
  | .less => order == .lt
  | .lessEqual => order != .gt
  | _ => false

/-- Whether two values can be compared by their order. -/
def comparable (left right : Value) : Bool :=
  (left.isNumber && right.isNumber) ||
    match left, right with
    | .string _, .string _ => true
    | _, _ => false

/-- The result of a comparison; numbers without an order make it false. -/
def compare? (operator : Operator) (left right : Value) : Option Value :=
  if comparable left right then some (.bool ((left.compare? right).any operator.accepts)) else none

/-- The sum of two numbers, or two texts of a kind end to end. -/
def add? : Value → Value → Option Value
  | .string left, .string right => some (.string (left ++ right))
  | .bytes left, .bytes right => some (.bytes (left ++ right))
  | left, right => Value.combine Value.addition left right

/-- The quotient of two numbers, an integer if nothing is lost. -/
def divide? (left right : Value) : Except Fault (Option Value) :=
  match left.toFloat?, right.toFloat? with
  | some dividend, some divisor =>
    if divisor.isZero then .error .divisionByZero
    else .ok (some (.ofFloat (dividend.div divisor)))
  | _, _ => .ok none

/-- The remainder of two integers, with the sign of the first. -/
def remainder? (left right : Value) : Except Fault (Option Value) :=
  match left.toInt64?, right.toInt64? with
  | some dividend, some divisor =>
    if divisor = 0 then .error .remainderByZero
    else .ok (some (.int (Int64.ofInt (Int.tmod dividend.toInt divisor.toInt))))
  | _, _ => .ok none

/-- Two truth values combined. -/
def combine? (operation : Bool → Bool → Bool) : Value → Value → Option Value
  | .bool left, .bool right => some (.bool (operation left right))
  | _, _ => none

/-- The result of an operator; none if it does not take the operands together. -/
def result? (operator : Operator) (left right : Value) : Except Fault (Option Value) :=
  match operator with
  | .add => .ok (add? left right)
  | .subtract => .ok (Value.combine Value.subtraction left right)
  | .multiply => .ok (Value.combine Value.multiplication left right)
  | .divide => divide? left right
  | .remainder => remainder? left right
  | .equal => .ok (some (.bool (left == right)))
  | .unequal => .ok (some (.bool (left != right)))
  | .greater | .greaterEqual | .less | .lessEqual => .ok (operator.compare? left right)
  | .and => .ok (combine? (· && ·) left right)
  | .or => .ok (combine? (· || ·) left right)

end Reshape.Operator
