import ImpLang.Value

/-!
# Binary operators

Five operators of arithmetic, five comparisons and conjunction, each with its symbol, its place in
the order of binding, and the kinds it takes and gives.
-/

namespace ImpLang

inductive ArithOp where
  | add | sub | mul | div | mod
  deriving DecidableEq, Repr

inductive CompareOp where
  | lt | le | gt | ge | eq
  deriving DecidableEq, Repr

inductive BinaryOp where
  | arith (op : ArithOp)
  | compare (op : CompareOp)
  | and
  deriving DecidableEq, Repr

namespace ArithOp

def symbol : ArithOp → String
  | .add => "+"
  | .sub => "-"
  | .mul => "*"
  | .div => "/"
  | .mod => "%"

/-- The noun for what an operator does. -/
def operation : ArithOp → String
  | .add => "addition"
  | .sub => "subtraction"
  | .mul => "multiplication"
  | .div => "division"
  | .mod => "modulo"

/-- The result over unbounded integers. Division truncates toward zero, and the remainder has the
sign of the dividend. -/
def exact : ArithOp → Int → Int → Int
  | .add, a, b => a + b
  | .sub, a, b => a - b
  | .mul, a, b => a * b
  | .div, a, b => a.tdiv b
  | .mod, a, b => a.tmod b

/-- Whether an operator has no result for a zero on its right. -/
def divides : ArithOp → Bool
  | .div | .mod => true
  | _ => false

end ArithOp

namespace CompareOp

def symbol : CompareOp → String
  | .lt => "<"
  | .le => "<="
  | .gt => ">"
  | .ge => ">="
  | .eq => "="

def holds : CompareOp → Int64 → Int64 → Bool
  | .lt, a, b => decide (a < b)
  | .le, a, b => decide (a ≤ b)
  | .gt, a, b => decide (b < a)
  | .ge, a, b => decide (b ≤ a)
  | .eq, a, b => decide (a = b)

end CompareOp

def negationSymbol : String := "not"

namespace BinaryOp

def symbol : BinaryOp → String
  | .arith op => op.symbol
  | .compare op => op.symbol
  | .and => "and"

/-- The place of an operator in the order of binding: a smaller number binds tighter, and operators
with the same number group to the left. -/
def precedence : BinaryOp → Nat
  | .arith .mul | .arith .div | .arith .mod => 3
  | .arith .add | .arith .sub => 4
  | .compare .eq => 8
  | .compare _ => 7
  | .and => 12

/-- The kind both operands must have. -/
def operandKind : BinaryOp → Kind
  | .arith _ | .compare _ => .int
  | .and => .bool

def resultKind : BinaryOp → Kind
  | .arith _ => .int
  | .compare _ | .and => .bool

/-- Whether an operator takes integers rather than truth values. -/
def takesIntegers (op : BinaryOp) : Bool :=
  decide (op.operandKind = .int)

def all : List BinaryOp :=
  [.arith .add, .arith .sub, .arith .mul, .arith .div, .arith .mod,
    .compare .lt, .compare .le, .compare .gt, .compare .ge, .compare .eq, .and]

def ofSymbol? (symbol : String) : Option BinaryOp :=
  all.find? fun op => op.symbol == symbol

/-- Symbols tell the operators apart. -/
@[simp] theorem ofSymbol?_symbol (op : BinaryOp) : ofSymbol? op.symbol = some op := by
  cases op with
  | arith op => cases op <;> rfl
  | compare op => cases op <;> rfl
  | and => rfl

end BinaryOp

end ImpLang
