import ImpLang.Proofs.Kind
import ImpLang.Proofs.Variables

/-!
# Static conditions

What can be asked of a statement without running it: that every expression is of the kind its place
needs (`Expr.HasKind`, `Stmt.WellTyped`), and that every variable is assigned to, on every way
through the statement, before it is used (`Stmt.Defined`). Both can be decided.
-/

namespace ImpLang

namespace Expr

/-- The kinds of expressions, by the kinds that operators take and give. -/
inductive HasKind : Expr → Kind → Prop
  | lit (value : Value) : HasKind (.lit value) value.kind
  | var (name : Name) : HasKind (.var name) .int
  | arith (op : ArithOp) {left right : Expr} (leftInt : HasKind left .int)
      (rightInt : HasKind right .int) : HasKind (.binary (.arith op) left right) .int
  | compare (op : CompareOp) {left right : Expr} (leftInt : HasKind left .int)
      (rightInt : HasKind right .int) : HasKind (.binary (.compare op) left right) .bool
  | and {left right : Expr} (leftBool : HasKind left .bool) (rightBool : HasKind right .bool) :
      HasKind (.binary .and left right) .bool
  | not {operand : Expr} (operandBool : HasKind operand .bool) : HasKind (.not operand) .bool

/-- The kind of an expression, if all its operators get what they take. -/
def infer? : Expr → Option Kind
  | .lit value => some value.kind
  | .var _ => some .int
  | .binary op left right =>
    if left.infer? = some op.operandKind ∧ right.infer? = some op.operandKind then
      some op.resultKind
    else none
  | .not operand => if operand.infer? = some .bool then some .bool else none

theorem HasKind.infer?_eq {e : Expr} {kind : Kind} (typed : e.HasKind kind) :
    e.infer? = some kind := by
  induction typed with
  | lit | var => rfl
  | arith op _ _ left right => simp [infer?, left, right, BinaryOp.operandKind, BinaryOp.resultKind]
  | compare op _ _ left right =>
    simp [infer?, left, right, BinaryOp.operandKind, BinaryOp.resultKind]
  | and _ _ left right => simp [infer?, left, right, BinaryOp.operandKind, BinaryOp.resultKind]
  | not _ operand => simp [infer?, operand]

theorem hasKind_of_infer? {e : Expr} {kind : Kind} (inferred : e.infer? = some kind) :
    e.HasKind kind := by
  induction e generalizing kind with
  | lit value =>
    cases inferred
    exact .lit value
  | var name =>
    cases inferred
    exact .var name
  | binary op left right leftTyped rightTyped =>
    rw [infer?] at inferred
    split at inferred
    next operands =>
      have leftKind := leftTyped operands.1
      have rightKind := rightTyped operands.2
      cases inferred
      cases op with
      | arith op => exact .arith op leftKind rightKind
      | compare op => exact .compare op leftKind rightKind
      | and => exact .and leftKind rightKind
    next => cases inferred
  | not operand operandTyped =>
    rw [infer?] at inferred
    split at inferred
    next isBool =>
      cases inferred
      exact .not (operandTyped isBool)
    next => cases inferred

theorem infer?_eq_some_iff {e : Expr} {kind : Kind} : e.infer? = some kind ↔ e.HasKind kind :=
  ⟨hasKind_of_infer?, HasKind.infer?_eq⟩

instance (e : Expr) (kind : Kind) : Decidable (e.HasKind kind) :=
  decidable_of_iff _ infer?_eq_some_iff

/-- The kind of a well-typed expression shows in its outermost part. -/
theorem HasKind.kind_eq {e : Expr} {kind : Kind} (typed : e.HasKind kind) : e.kind = kind := by
  cases typed <;> rfl

end Expr

namespace Stmt

/-- What is assigned or written and the bounds of counting loops are integers, and all conditions
are truth values. -/
def WellTyped : Stmt → Prop
  | .skip | .readNum _ | .writeStr _ => True
  | .assign _ value | .writeNum value => value.HasKind .int
  | .seq first rest => first.WellTyped ∧ rest.WellTyped
  | .ifThenElse cond yes no => cond.HasKind .bool ∧ yes.WellTyped ∧ no.WellTyped
  | .ifThen cond body | .whileDo cond body | .repeatUntil body cond | .doWhile body cond =>
    cond.HasKind .bool ∧ body.WellTyped
  | .forTo _ low high body => low.HasKind .int ∧ high.HasKind .int ∧ body.WellTyped

/-- The names that are bound after a statement for certain, if these are before it. A body that may
be left out adds nothing. -/
def binds : Stmt → Finset Name → Finset Name
  | .skip, bound | .ifThen _ _, bound | .whileDo _ _, bound | .writeNum _, bound
  | .writeStr _, bound => bound
  | .assign target _, bound | .readNum target, bound => insert target bound
  | .seq first rest, bound => rest.binds (first.binds bound)
  | .ifThenElse _ yes no, bound => yes.binds bound ∩ no.binds bound
  | .repeatUntil body _, bound | .doWhile body _, bound => body.binds bound
  | .forTo counter _ _ _, bound => insert counter bound

/-- Every variable is bound for certain where it is used, if these names are bound before. -/
def Defined : Stmt → Finset Name → Prop
  | .skip, _ | .readNum _, _ | .writeStr _, _ => True
  | .assign _ value, bound | .writeNum value, bound => value.vars ⊆ bound
  | .seq first rest, bound => first.Defined bound ∧ rest.Defined (first.binds bound)
  | .ifThenElse cond yes no, bound => cond.vars ⊆ bound ∧ yes.Defined bound ∧ no.Defined bound
  | .ifThen cond body, bound | .whileDo cond body, bound => cond.vars ⊆ bound ∧ body.Defined bound
  | .repeatUntil body cond, bound | .doWhile body cond, bound =>
    body.Defined bound ∧ cond.vars ⊆ body.binds bound
  | .forTo counter low high body, bound =>
    low.vars ⊆ bound ∧ high.vars ⊆ insert counter bound ∧ body.Defined (insert counter bound)

instance decidableWellTyped : (s : Stmt) → Decidable s.WellTyped
  | .skip | .readNum _ | .writeStr _ => inferInstanceAs (Decidable True)
  | .assign _ value | .writeNum value => inferInstanceAs (Decidable (value.HasKind .int))
  | .seq first rest =>
    have := first.decidableWellTyped
    have := rest.decidableWellTyped
    inferInstanceAs (Decidable (_ ∧ _))
  | .ifThenElse _ yes no =>
    have := yes.decidableWellTyped
    have := no.decidableWellTyped
    inferInstanceAs (Decidable (_ ∧ _ ∧ _))
  | .ifThen _ body | .whileDo _ body | .repeatUntil body _ | .doWhile body _ =>
    have := body.decidableWellTyped
    inferInstanceAs (Decidable (_ ∧ _))
  | .forTo _ _ _ body =>
    have := body.decidableWellTyped
    inferInstanceAs (Decidable (_ ∧ _ ∧ _))

instance decidableDefined : (s : Stmt) → (bound : Finset Name) → Decidable (s.Defined bound)
  | .skip, _ | .readNum _, _ | .writeStr _, _ => inferInstanceAs (Decidable True)
  | .assign _ value, bound | .writeNum value, bound =>
    inferInstanceAs (Decidable (value.vars ⊆ bound))
  | .seq first rest, bound =>
    have := first.decidableDefined bound
    have := rest.decidableDefined (first.binds bound)
    inferInstanceAs (Decidable (_ ∧ _))
  | .ifThenElse _ yes no, bound =>
    have := yes.decidableDefined bound
    have := no.decidableDefined bound
    inferInstanceAs (Decidable (_ ∧ _ ∧ _))
  | .ifThen _ body, bound | .whileDo _ body, bound =>
    have := body.decidableDefined bound
    inferInstanceAs (Decidable (_ ∧ _))
  | .repeatUntil body _, bound | .doWhile body _, bound =>
    have := body.decidableDefined bound
    inferInstanceAs (Decidable (_ ∧ _))
  | .forTo counter _ _ body, bound =>
    have := body.decidableDefined (insert counter bound)
    inferInstanceAs (Decidable (_ ∧ _ ∧ _))

/-- What is bound before a statement is bound after it. -/
theorem subset_binds (s : Stmt) (bound : Finset Name) : bound ⊆ s.binds bound := by
  induction s generalizing bound with
  | skip | ifThen | whileDo | writeNum | writeStr => exact Finset.Subset.refl bound
  | assign target | readNum target | forTo target => exact Finset.subset_insert target bound
  | seq first rest firstKeeps restKeeps =>
    exact (firstKeeps bound).trans (restKeeps (first.binds bound))
  | ifThenElse cond yes no yesKeeps noKeeps =>
    exact Finset.subset_inter (yesKeeps bound) (noKeeps bound)
  | repeatUntil body cond bodyKeeps | doWhile body cond bodyKeeps => exact bodyKeeps bound

end Stmt

end ImpLang
