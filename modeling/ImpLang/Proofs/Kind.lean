import ImpLang.Exec

/-!
# Kinds of expressions

Variables hold integers only, so the kind of what an expression denotes shows in its outermost part
and no store can change it (`eval_kind`). Where an expression is of the kind that is asked for, the
place that asks makes no difference; where it is not, asking fails each time it gets that far.
-/

namespace ImpLang.Expr

/-- The kind of what an expression denotes, if anything. -/
def kind : Expr → Kind
  | .lit value => value.kind
  | .var _ => .int
  | .binary op _ _ => op.resultKind
  | .not _ => .bool

variable {e : Expr} {store : Store} {value : Value}

theorem apply_kind {op : BinaryOp} {left right : Value}
    (applied : op.apply left right = .ok value) : value.kind = op.resultKind := by
  cases op with
  | arith op =>
    cases left <;> cases right <;> simp only [BinaryOp.apply, reduceCtorEq] at applied
    rename_i a b
    cases result : op.apply a b with
    | error fault => simp [result, Except.map] at applied
    | ok n =>
      simp only [result, Except.map, Except.ok.injEq] at applied
      rw [← applied]
      rfl
  | compare op =>
    cases left <;> cases right <;> simp only [BinaryOp.apply, reduceCtorEq] at applied
    cases applied
    rfl
  | and =>
    cases left <;> cases right <;> simp only [BinaryOp.apply, reduceCtorEq] at applied
    cases applied
    rfl

/-- An expression denotes nothing but values of its kind. -/
theorem eval_kind (found : e.eval store = .ok value) : value.kind = e.kind := by
  cases e with
  | lit literal =>
    cases found
    rfl
  | var name =>
    simp only [eval] at found
    cases known : store.lookup name with
    | error fault => simp [known, Except.map] at found
    | ok n =>
      simp only [known, Except.map, Except.ok.injEq] at found
      rw [← found]
      rfl
  | binary op left right =>
    obtain ⟨a, _, rest⟩ := bind_eq_ok.mp found
    obtain ⟨b, _, applied⟩ := bind_eq_ok.mp rest
    exact apply_kind applied
  | not operand =>
    obtain ⟨a, _, negated⟩ := bind_eq_ok.mp found
    obtain ⟨b, _, result⟩ := bind_eq_ok.mp negated
    cases result
    rfl

theorem eval_int (isInt : e.kind = .int) (found : e.eval store = .ok value) :
    ∃ n, value = .int n := by
  have same := eval_kind found
  cases value with
  | int n => exact ⟨n, rfl⟩
  | bool b => simp [isInt, Value.kind] at same

theorem eval_bool (isBool : e.kind = .bool) (found : e.eval store = .ok value) :
    ∃ b, value = .bool b := by
  have same := eval_kind found
  cases value with
  | int n => simp [isBool, Value.kind] at same
  | bool b => exact ⟨b, rfl⟩

/-- For a truth value it makes no difference what asks for one. -/
theorem evalBool_site (isBool : e.kind = .bool) (store : Store) (site site' : Site) :
    e.evalBool store site = e.evalBool store site' := by
  cases found : e.eval store with
  | error fault => rw [evalBool_of_error found, evalBool_of_error found]
  | ok value =>
    obtain ⟨b, rfl⟩ := eval_bool isBool found
    rw [evalBool_of_ok found, evalBool_of_ok found]
    rfl

theorem evalBool_not (isBool : e.kind = .bool) (store : Store) (site site' : Site) :
    (Expr.not e).evalBool store site = (e.evalBool store site').map (!·) := by
  cases found : e.eval store with
  | error fault =>
    rw [evalBool_of_error (eval_not_of_error found), evalBool_of_error found]
    rfl
  | ok value =>
    obtain ⟨b, rfl⟩ := eval_bool isBool found
    have negated : (Expr.not e).eval store = .ok (.bool !b) := eval_not_of_ok found
    rw [evalBool_of_ok negated, evalBool_of_ok found]
    rfl

/-- The fault of asking an integer for a truth value: its own, if it has one. -/
def misfit (e : Expr) (store : Store) (site : Site) : Fault :=
  match e.eval store with
  | .error fault => fault
  | .ok _ => .mismatch site .bool .int

theorem evalBool_int (isInt : e.kind = .int) (store : Store) (site : Site) :
    e.evalBool store site = .error (e.misfit store site) := by
  cases found : e.eval store with
  | error fault => rw [evalBool_of_error found, misfit, found]
  | ok value =>
    obtain ⟨n, rfl⟩ := eval_int isInt found
    rw [evalBool_of_ok found, misfit, found]
    rfl

/-- Negation asks first, whatever asks for its result. -/
theorem evalBool_not_int (isInt : e.kind = .int) (store : Store) (site : Site) :
    (Expr.not e).evalBool store site = .error (e.misfit store .negation) := by
  cases found : e.eval store with
  | error fault => rw [evalBool_of_error (eval_not_of_error found), misfit, found]
  | ok value =>
    obtain ⟨n, rfl⟩ := eval_int isInt found
    have refused : (Expr.not e).eval store = .error (.mismatch .negation .bool .int) :=
      eval_not_of_ok found
    rw [evalBool_of_error refused, misfit, found]

end ImpLang.Expr
