import ImpLang.Fault

/-!
# Applying operators

Arithmetic is done over the unbounded integers and the result then put into 64 bits, so that nothing
wraps around: a result that does not fit is a fault. A remainder is taken to fit when the quotient
it belongs to does.
-/

namespace ImpLang

def Fits (n : Int) : Prop :=
  -9223372036854775808 ≤ n ∧ n ≤ 9223372036854775807

instance (n : Int) : Decidable (Fits n) :=
  inferInstanceAs (Decidable (_ ∧ _))

namespace ArithOp

/-- The number that has to fit for an operator to have a result: the result, or for a remainder the
quotient. -/
def gauge : ArithOp → Int → Int → Int
  | .mod, a, b => a.tdiv b
  | op, a, b => op.exact a b

/-- The result on two integers of 64 bits. A zero divisor is noticed before anything else. -/
def apply (op : ArithOp) (a b : Int64) : Except Fault Int64 :=
  if op.divides ∧ b = 0 then .error (.divisionByZero (.arith op))
  else if Fits (op.gauge a.toInt b.toInt) then .ok (Int64.ofInt (op.exact a.toInt b.toInt))
  else .error (.overflow op)

end ArithOp

namespace BinaryOp

/-- The fault of an operator on operands that are not both of its kind: it is the first of the wrong
kind that is blamed. -/
def reject (op : BinaryOp) (left right : Value) : Fault :=
  .mismatch (.operator op) op.operandKind
    (if left.kind = op.operandKind then right.kind else left.kind)

def apply (op : BinaryOp) (left right : Value) : Except Fault Value :=
  match op, left, right with
  | .arith op, .int a, .int b => (op.apply a b).map .int
  | .compare op, .int a, .int b => .ok (.bool (op.holds a b))
  | .and, .bool a, .bool b => .ok (.bool (a && b))
  | op, left, right => .error (op.reject left right)

end BinaryOp

def Value.negate (operand : Value) : Except Fault Value := do
  let b ← operand.expectBool .negation
  return .bool (!b)

end ImpLang
