import ImpLang.Expr
import ImpLang.Fault

/-!
# Statements

Assignment, sequence, branches, four kinds of loop, input and output. A sequence joins two
statements; longer ones are built with `block`, which nests to the right.
-/

namespace ImpLang

inductive Stmt where
  | skip
  | assign (target : Name) (value : Expr)
  | seq (first rest : Stmt)
  | ifThenElse (cond : Expr) (yes no : Stmt)
  | ifThen (cond : Expr) (body : Stmt)
  | whileDo (cond : Expr) (body : Stmt)
  | repeatUntil (body : Stmt) (cond : Expr)
  | doWhile (body : Stmt) (cond : Expr)
  | forTo (counter : Name) (low high : Expr) (body : Stmt)
  | readNum (target : Name)
  | writeNum (value : Expr)
  | writeStr (text : String)
  deriving DecidableEq, Repr

namespace Stmt

/-- The statements of a list as one, nested to the right; no statement is `skip`. -/
def block : List Stmt → Stmt
  | [] => .skip
  | [only] => only
  | first :: rest => .seq first (block rest)

/-- The parts down the right spine of a sequence. The last of them is no sequence. -/
def spine : Stmt → List Stmt
  | .seq first rest => first :: rest.spine
  | last => [last]

def form : Stmt → Form
  | .skip => .skip
  | .assign .. => .assign
  | .seq .. => .seq
  | .ifThenElse .. => .ifThenElse
  | .ifThen .. => .ifThen
  | .whileDo .. => .whileDo
  | .repeatUntil .. => .repeatUntil
  | .doWhile .. => .doWhile
  | .forTo .. => .forTo
  | .readNum _ => .readNum
  | .writeNum _ => .writeNum
  | .writeStr _ => .writeStr

def describe (s : Stmt) : String :=
  s.form.describe

end Stmt

/-- A program: a label, the variables it declares in order, and what it does. -/
structure Program where
  name : String
  vars : List Name
  body : Stmt
  deriving DecidableEq, Repr

end ImpLang
