import ImpLang.Expr
import ImpLang.Operator.Apply
import ImpLang.Store

/-!
# Evaluation of expressions

Operands are evaluated from left to right and always both, also those of `and`, so the fault of an
expression is that of its leftmost innermost part that has one.
-/

namespace ImpLang.Expr

/-- The value of an expression in a store. -/
def eval (store : Store) : Expr → Except Fault Value
  | .lit value => .ok value
  | .var name => (store.lookup name).map .int
  | .binary op left right => do
    let a ← left.eval store
    let b ← right.eval store
    op.apply a b
  | .not operand => do
    let a ← operand.eval store
    a.negate

/-- The value of an expression that has to be an integer. -/
def evalInt (e : Expr) (store : Store) (site : Site) : Except Fault Int64 := do
  (← e.eval store).expectInt site

/-- The value of an expression that has to be a truth value. -/
def evalBool (e : Expr) (store : Store) (site : Site) : Except Fault Bool := do
  (← e.eval store).expectBool site

section

variable {e left right operand : Expr} {name : Name} {op : BinaryOp} {store : Store} {n : Int64}
  {value other : Value} {fault : Fault} {site : Site}

theorem evalInt_of_ok (found : e.eval store = .ok value) :
    e.evalInt store site = value.expectInt site := by
  rw [evalInt, found]
  rfl

theorem evalInt_of_error (failed : e.eval store = .error fault) :
    e.evalInt store site = .error fault := by
  rw [evalInt, failed]
  rfl

theorem evalBool_of_ok (found : e.eval store = .ok value) :
    e.evalBool store site = value.expectBool site := by
  rw [evalBool, found]
  rfl

theorem evalBool_of_error (failed : e.eval store = .error fault) :
    e.evalBool store site = .error fault := by
  rw [evalBool, failed]
  rfl

theorem evalInt_eq_ok_iff : e.evalInt store site = .ok n ↔ e.eval store = .ok (.int n) := by
  cases found : e.eval store with
  | error fault => simp [evalInt_of_error found]
  | ok value => cases value <;> simp [evalInt_of_ok found, Value.expectInt]

theorem evalBool_eq_ok_iff {b : Bool} :
    e.evalBool store site = .ok b ↔ e.eval store = .ok (.bool b) := by
  cases found : e.eval store with
  | error fault => simp [evalBool_of_error found]
  | ok value => cases value <;> simp [evalBool_of_ok found, Value.expectBool]

theorem eval_var_of_ok (found : store.lookup name = .ok n) :
    (Expr.var name).eval store = .ok (.int n) := by
  rw [eval, found]
  rfl

theorem eval_var_of_error (failed : store.lookup name = .error fault) :
    (Expr.var name).eval store = .error fault := by
  rw [eval, failed]
  rfl

theorem eval_binary_of_ok (first : left.eval store = .ok value)
    (second : right.eval store = .ok other) :
    (Expr.binary op left right).eval store = op.apply value other := by
  rw [eval, first, second]
  rfl

theorem eval_binary_of_left (failed : left.eval store = .error fault) :
    (Expr.binary op left right).eval store = .error fault := by
  rw [eval, failed]
  rfl

theorem eval_binary_of_right (first : left.eval store = .ok value)
    (failed : right.eval store = .error fault) :
    (Expr.binary op left right).eval store = .error fault := by
  rw [eval, first, failed]
  rfl

theorem eval_not_of_ok (found : operand.eval store = .ok value) :
    (Expr.not operand).eval store = value.negate := by
  rw [eval, found]
  rfl

theorem eval_not_of_error (failed : operand.eval store = .error fault) :
    (Expr.not operand).eval store = .error fault := by
  rw [eval, failed]
  rfl

end

end ImpLang.Expr
