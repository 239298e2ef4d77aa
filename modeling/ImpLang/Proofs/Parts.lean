import ImpLang.Stmt

/-!
# Parts of programs

The statements in a statement, the expressions in an expression, and the expressions that stand
anywhere in a statement. A statement is silent if no part of it reads or prints.
-/

namespace ImpLang

/-- The kind that a form asks of its condition, its bounds or the number it writes. -/
def Form.demand? : Form → Option Kind
  | .ifThenElse | .ifThen | .whileDo | .repeatUntil | .doWhile => some .bool
  | .forTo | .writeNum => some .int
  | .skip | .assign | .seq | .readNum | .writeStr => none

/-- Whether statements of a form go round. -/
def Form.isLoop : Form → Bool
  | .whileDo | .repeatUntil | .doWhile | .forTo => true
  | _ => false

/-- Whether statements of a form read or print. -/
def Form.communicates : Form → Bool
  | .readNum | .writeNum | .writeStr => true
  | _ => false

/-- An expression and the expressions in it. -/
def Expr.parts : Expr → List Expr
  | .lit value => [.lit value]
  | .var name => [.var name]
  | .binary op left right => .binary op left right :: (left.parts ++ right.parts)
  | .not operand => .not operand :: operand.parts

namespace Stmt

/-- A statement and the statements in it. -/
def parts : Stmt → List Stmt
  | .seq first rest => .seq first rest :: (first.parts ++ rest.parts)
  | .ifThenElse cond yes no => .ifThenElse cond yes no :: (yes.parts ++ no.parts)
  | .ifThen cond body => .ifThen cond body :: body.parts
  | .whileDo cond body => .whileDo cond body :: body.parts
  | .repeatUntil body cond => .repeatUntil body cond :: body.parts
  | .doWhile body cond => .doWhile body cond :: body.parts
  | .forTo counter low high body => .forTo counter low high body :: body.parts
  | s => [s]

/-- The expressions of a statement, apart from those of the statements in it. -/
def exprs : Stmt → List Expr
  | .assign _ value | .writeNum value => [value]
  | .ifThenElse cond _ _ | .ifThen cond _ | .whileDo cond _ | .repeatUntil _ cond
  | .doWhile _ cond => [cond]
  | .forTo _ low high _ => [low, high]
  | .skip | .seq .. | .readNum _ | .writeStr _ => []

/-- An expression stands somewhere in a statement. -/
def Mentions (s : Stmt) (e : Expr) : Prop :=
  ∃ part ∈ s.parts, ∃ whole ∈ part.exprs, e ∈ whole.parts

/-- No part of a statement reads or prints. -/
def Silent (s : Stmt) : Prop :=
  ∀ part ∈ s.parts, part.form.communicates = false

instance (s : Stmt) : Decidable s.Silent :=
  inferInstanceAs (Decidable (∀ part ∈ s.parts, _))

theorem mem_parts_self (s : Stmt) : s ∈ s.parts := by
  cases s <;> simp [parts]

end Stmt

end ImpLang
