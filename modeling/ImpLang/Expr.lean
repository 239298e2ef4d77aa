import ImpLang.Operator

/-!
# Expressions

Trees of literals, variables, binary operations and negations, with a constructor function for each
operator.
-/

namespace ImpLang

inductive Expr where
  | lit (value : Value)
  | var (name : Name)
  | binary (op : BinaryOp) (left right : Expr)
  | not (operand : Expr)
  deriving DecidableEq, Repr

namespace Expr

def int (n : Int64) : Expr := .lit (.int n)

def bool (b : Bool) : Expr := .lit (.bool b)

def named (text : String) : Expr := .var ⟨text⟩

def add (left right : Expr) : Expr := .binary (.arith .add) left right

def sub (left right : Expr) : Expr := .binary (.arith .sub) left right

def mul (left right : Expr) : Expr := .binary (.arith .mul) left right

def div (left right : Expr) : Expr := .binary (.arith .div) left right

def mod (left right : Expr) : Expr := .binary (.arith .mod) left right

def lt (left right : Expr) : Expr := .binary (.compare .lt) left right

def le (left right : Expr) : Expr := .binary (.compare .le) left right

def gt (left right : Expr) : Expr := .binary (.compare .gt) left right

def ge (left right : Expr) : Expr := .binary (.compare .ge) left right

def eq (left right : Expr) : Expr := .binary (.compare .eq) left right

def and (left right : Expr) : Expr := .binary .and left right

end Expr

end ImpLang
