import ImpLang.Stmt
import Mathlib.Data.Finset.Basic

/-!
# Names in programs

The variables of an expression, and the names that occur anywhere in a statement: as variables, as
targets of assignments and input, and as counters of loops. The latter two are the names that the
statement can write; counters are also given by themselves, since they are set without an event.
-/

namespace ImpLang

/-- The variables of an expression. -/
def Expr.vars : Expr → Finset Name
  | .lit _ => ∅
  | .var name => {name}
  | .binary _ left right => left.vars ∪ right.vars
  | .not operand => operand.vars

/-- The names in a statement. -/
def Stmt.names : Stmt → Finset Name
  | .skip | .writeStr _ => ∅
  | .assign target value => insert target value.vars
  | .seq first rest => first.names ∪ rest.names
  | .ifThenElse cond yes no => cond.vars ∪ (yes.names ∪ no.names)
  | .ifThen cond body | .whileDo cond body | .repeatUntil body cond | .doWhile body cond =>
    cond.vars ∪ body.names
  | .forTo counter low high body => insert counter (low.vars ∪ (high.vars ∪ body.names))
  | .readNum target => {target}
  | .writeNum value => value.vars

/-- The names that a statement can write. -/
def Stmt.targets : Stmt → Finset Name
  | .skip | .writeNum _ | .writeStr _ => ∅
  | .assign target _ | .readNum target => {target}
  | .seq first rest => first.targets ∪ rest.targets
  | .ifThenElse _ yes no => yes.targets ∪ no.targets
  | .ifThen _ body | .whileDo _ body | .repeatUntil body _ | .doWhile body _ => body.targets
  | .forTo counter _ _ body => insert counter body.targets

/-- The names that a statement counts with. -/
def Stmt.counters : Stmt → Finset Name
  | .skip | .assign .. | .readNum _ | .writeNum _ | .writeStr _ => ∅
  | .seq first rest => first.counters ∪ rest.counters
  | .ifThenElse _ yes no => yes.counters ∪ no.counters
  | .ifThen _ body | .whileDo _ body | .repeatUntil body _ | .doWhile body _ => body.counters
  | .forTo counter _ _ body => insert counter body.counters

end ImpLang
