import ImpLang.Proofs.ExactValue
import ImpLang.Proofs.Failure
import ImpLang.Proofs.Safety

/-!
# Kinds are respected by evaluation

The rules of `Expr.HasKind` foretell the kinds of values exactly. An expression that has a value in
some store is well typed, and its kind is that of the value. A part of an expression fails of the
kinds of its operands if and only if it is not well typed (`stepFault?_cause`); so a well-typed
expression never does, and one that is not fails in every store: of a wrong kind, unless the lack of
a variable or a fault of numbers in a well-typed part is noticed before.
-/

namespace ImpLang

/-- The faults that come from a value of the wrong kind. -/
def Fault.OfKinds : Fault → Prop
  | .mismatch .. => True
  | _ => False

theorem Fault.OfNumbers.not_ofKinds {fault : Fault} (ofNumbers : fault.OfNumbers) :
    ¬ fault.OfKinds := by
  cases fault with
  | overflow | divisionByZero => exact id
  | unbound | mismatch | inputClosed | budgetExceeded => exact ofNumbers.elim

/-! ## Operators -/

theorem ArithOp.apply_ofNumbers {op : ArithOp} {a b : Int64} {fault : Fault}
    (failed : op.apply a b = .error fault) : fault.OfNumbers := by
  rcases ArithOp.apply_eq_error failed with ⟨_, rfl⟩ | rfl <;> trivial

namespace BinaryOp

variable {op : BinaryOp} {left right value : Value} {fault : Fault}

/-- Both operands are of the kind that the operator takes. -/
def Takes (op : BinaryOp) (left right : Value) : Prop :=
  left.kind = op.operandKind ∧ right.kind = op.operandKind

/-- Operands of the right kind can only be the wrong numbers. -/
theorem Takes.ofNumbers (takes : op.Takes left right)
    (failed : op.apply left right = .error fault) : fault.OfNumbers := by
  obtain ⟨leftKind, rightKind⟩ := takes
  cases op with
  | arith op =>
    cases left <;> cases right <;> cases leftKind <;> cases rightKind
    rename_i a b
    cases result : op.apply a b with
    | ok n => simp [BinaryOp.apply, result, Except.map] at failed
    | error cause =>
      simp only [BinaryOp.apply, result, Except.map, Except.error.injEq] at failed
      exact failed ▸ ArithOp.apply_ofNumbers result
  | compare op | and =>
    cases left <;> cases right <;> cases leftKind <;> cases rightKind
    cases failed

/-- Operands of another kind are rejected, whatever they are. -/
theorem apply_of_not_takes (misfit : ¬ op.Takes left right) :
    op.apply left right = .error (op.reject left right) := by
  unfold BinaryOp.apply
  split
  · exact absurd ⟨rfl, rfl⟩ misfit
  · exact absurd ⟨rfl, rfl⟩ misfit
  · exact absurd ⟨rfl, rfl⟩ misfit
  · rfl

theorem takes_of_ok (applied : op.apply left right = .ok value) : op.Takes left right := by
  by_contra misfit
  rw [apply_of_not_takes misfit] at applied
  cases applied

end BinaryOp

namespace Expr

variable {e left right operand : Expr} {op : BinaryOp} {kind : Kind} {store : Store}
  {value : Value} {fault : Fault}

/-! ## The rules, read backward -/

/-- An expression has a kind by the rules. -/
def WellTyped (e : Expr) : Prop :=
  ∃ kind, e.HasKind kind

/-- The kind of a well-typed expression is the one that its outermost part shows. -/
theorem WellTyped.hasKind (typed : e.WellTyped) : e.HasKind e.kind := by
  obtain ⟨kind, hasKind⟩ := typed
  rwa [hasKind.kind_eq]

theorem wellTyped_iff_infer? : e.WellTyped ↔ e.infer?.isSome = true := by
  simp only [WellTyped, Option.isSome_iff_exists, infer?_eq_some_iff]

instance (e : Expr) : Decidable e.WellTyped :=
  decidable_of_iff _ wellTyped_iff_infer?.symm

theorem wellTyped_binary_iff :
    (Expr.binary op left right).WellTyped ↔
      left.HasKind op.operandKind ∧ right.HasKind op.operandKind := by
  rw [wellTyped_iff_infer?, infer?, ← infer?_eq_some_iff, ← infer?_eq_some_iff]
  split <;> simp_all

theorem wellTyped_not_iff : (Expr.not operand).WellTyped ↔ operand.HasKind .bool := by
  rw [wellTyped_iff_infer?, infer?, ← infer?_eq_some_iff]
  split <;> simp_all

/-- Of a well-typed expression every part is well typed. -/
theorem WellTyped.part {part : Expr} (typed : e.WellTyped) (inside : part ∈ e.parts) :
    part.WellTyped := by
  induction e with
  | lit | var =>
    cases List.mem_singleton.mp inside
    exact typed
  | binary op left right leftPart rightPart =>
    rw [parts, List.mem_cons, List.mem_append] at inside
    obtain ⟨leftKind, rightKind⟩ := wellTyped_binary_iff.mp typed
    rcases inside with rfl | inLeft | inRight
    · exact typed
    · exact leftPart ⟨_, leftKind⟩ inLeft
    · exact rightPart ⟨_, rightKind⟩ inRight
  | not operand operandPart =>
    rw [parts, List.mem_cons] at inside
    rcases inside with rfl | inOperand
    · exact typed
    · exact operandPart ⟨_, wellTyped_not_iff.mp typed⟩ inOperand

theorem mem_vars_of_mem_parts {name : Name} (inside : .var name ∈ e.parts) : name ∈ e.vars := by
  induction e with
  | lit value => cases List.mem_singleton.mp inside
  | var other =>
    cases List.mem_singleton.mp inside
    exact Finset.mem_singleton_self name
  | binary op left right leftVars rightVars =>
    simp only [parts, List.mem_cons, reduceCtorEq, false_or, List.mem_append] at inside
    exact Finset.mem_union.mpr (inside.imp leftVars rightVars)
  | not operand operandVars =>
    simp only [parts, List.mem_cons, reduceCtorEq, false_or] at inside
    exact operandVars inside

/-! ## Values and faults -/

/-- An expression that has a value has the kind of the value. -/
theorem hasKind_of_ok (found : e.eval store = .ok value) : e.HasKind value.kind := by
  suffices typed : e.WellTyped by
    rw [eval_kind found]
    exact typed.hasKind
  induction e generalizing value with
  | lit literal => exact ⟨_, .lit literal⟩
  | var name => exact ⟨_, .var name⟩
  | binary op left right leftTyped rightTyped =>
    obtain ⟨a, first, rest⟩ := bind_eq_ok.mp found
    obtain ⟨b, second, applied⟩ := bind_eq_ok.mp rest
    obtain ⟨leftKind, rightKind⟩ := BinaryOp.takes_of_ok applied
    refine wellTyped_binary_iff.mpr ⟨?_, ?_⟩
    · rw [← leftKind, eval_kind first]
      exact (leftTyped first).hasKind
    · rw [← rightKind, eval_kind second]
      exact (rightTyped second).hasKind
  | not operand operandTyped =>
    obtain ⟨a, inner, negated⟩ := bind_eq_ok.mp found
    cases a with
    | int n => cases negated
    | bool b =>
      have isBool : operand.kind = .bool := (eval_kind inner).symm
      refine wellTyped_not_iff.mpr ?_
      rw [← isBool]
      exact (operandTyped inner).hasKind

/-- Where an expression has a value, the kind of the value is its only kind. -/
theorem hasKind_iff_of_ok (found : e.eval store = .ok value) :
    e.HasKind kind ↔ kind = value.kind := by
  refine ⟨fun typed => ?_, fun same => same ▸ hasKind_of_ok found⟩
  rw [eval_kind found, typed.kind_eq]

theorem eval_of_stepFault? (own : e.stepFault? store = some fault) :
    e.eval store = .error fault := by
  cases e with
  | lit literal => cases own
  | var name =>
    rw [stepFault?_var] at own
    cases known : store.lookup name with
    | ok n => simp [known, faultOf] at own
    | error cause =>
      simp only [known, faultOf, Option.some.injEq] at own
      rw [eval_var_of_error known, own]
  | binary op left right =>
    obtain ⟨a, b, first, second, applied⟩ := apply_of_stepFault? own
    rw [eval_binary_of_ok first second, applied]
  | not operand =>
    obtain ⟨a, found, negated⟩ := negate_of_stepFault? own
    rw [eval_not_of_ok found, negated]

/-- A part that fails by itself does so of a wrong kind if it is not well typed. If it is well
typed, it fails of its numbers or is a variable without a value. -/
theorem stepFault?_cause (own : e.stepFault? store = some fault) :
    (¬ e.WellTyped ∧ fault.OfKinds) ∨ (e.WellTyped ∧ fault.OfNumbers) ∨
      ∃ name, e = .var name ∧ fault = .unbound name ∧ name ∉ store.names := by
  cases e with
  | lit literal => cases own
  | var name =>
    have failed := eval_of_stepFault? own
    cases known : store.lookup name with
    | ok n => simp [eval_var_of_ok known] at failed
    | error cause =>
      obtain ⟨absent, rfl⟩ := Store.lookup_eq_error_iff.mp known
      rw [eval_var_of_error known, Except.error.injEq] at failed
      exact Or.inr (Or.inr ⟨name, rfl, failed.symm, absent⟩)
  | binary op left right =>
    obtain ⟨a, b, first, second, applied⟩ := apply_of_stepFault? own
    have typed : (Expr.binary op left right).WellTyped ↔ op.Takes a b := by
      rw [wellTyped_binary_iff, hasKind_iff_of_ok first, hasKind_iff_of_ok second,
        BinaryOp.Takes, eq_comm, @eq_comm _ b.kind]
    by_cases takes : op.Takes a b
    · exact Or.inr (Or.inl ⟨typed.mpr takes, takes.ofNumbers applied⟩)
    · rw [BinaryOp.apply_of_not_takes takes] at applied
      cases applied
      exact Or.inl ⟨mt typed.mp takes, trivial⟩
  | not operand =>
    obtain ⟨a, found, negated⟩ := negate_of_stepFault? own
    cases a with
    | int n =>
      cases negated
      refine Or.inl ⟨fun typed => ?_, trivial⟩
      cases (hasKind_iff_of_ok found).mp (wellTyped_not_iff.mp typed)
    | bool b => cases negated

/-- Evaluation and the rules for kinds agree. An expression that has a value is well typed, and its
one kind is that of the value. A well-typed expression never fails of a wrong kind. One that is not
well typed fails in every store, and of a wrong kind if its variables are bound and no well-typed
part of it fails of its numbers. -/
theorem eval_agrees_with_typing (store : Store) (e : Expr) :
    (∀ value, e.eval store = .ok value → ∀ kind, e.HasKind kind ↔ kind = value.kind) ∧
    (e.WellTyped → ∀ fault, e.eval store = .error fault → ¬ fault.OfKinds) ∧
    (¬ e.WellTyped → ∃ fault, e.eval store = .error fault ∧
      (store.Covers e.vars →
        (∀ part ∈ e.parts, part.WellTyped →
          ∀ cause, part.eval store = .error cause → ¬ cause.OfNumbers) →
        fault.OfKinds)) := by
  refine ⟨fun value found kind => hasKind_iff_of_ok found, fun typed fault failed => ?_,
    fun untyped => ?_⟩
  · obtain ⟨part, inside, own⟩ := exists_stepFault?_of_error failed
    rcases stepFault?_cause own with ⟨misfit, _⟩ | ⟨_, ofNumbers⟩ | ⟨name, _, rfl, _⟩
    · exact absurd (typed.part inside) misfit
    · exact ofNumbers.not_ofKinds
    · exact id
  · cases evaluated : e.eval store with
    | ok value => exact absurd ⟨_, hasKind_of_ok evaluated⟩ untyped
    | error fault =>
      refine ⟨fault, rfl, fun covers inRange => ?_⟩
      obtain ⟨part, inside, own⟩ := exists_stepFault?_of_error evaluated
      rcases stepFault?_cause own with ⟨_, ofKinds⟩ | ⟨typed, ofNumbers⟩ | ⟨name, rfl, _, absent⟩
      · exact ofKinds
      · exact absurd ofNumbers (inRange part inside typed fault (eval_of_stepFault? own))
      · exact absurd (covers name (mem_vars_of_mem_parts inside)) absent

/-- A quotient by zero is noticed before the sum finds that its right operand is no number. -/
example : ¬ (Expr.add (.div (.int 1) (.int 0)) (.bool true)).WellTyped ∧
    (Expr.add (.div (.int 1) (.int 0)) (.bool true)).eval .empty =
      .error (.divisionByZero (.arith .div)) := by
  decide

end Expr

end ImpLang
