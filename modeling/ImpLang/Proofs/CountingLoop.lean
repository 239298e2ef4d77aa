import ImpLang.Proofs.Agreement
import ImpLang.Proofs.Kind

/-!
# Counting loops written out

A counting loop agrees with the assignment of its lower bound followed by a loop that tests its
counter and adds one to it, under every limit. An upper bound that is an integer makes the two go
round in lockstep (`iterate_forTo_agree`). One that is a truth value makes both fail at their first
test, and only then, or when the lower bound is a truth value, do they blame different places.
-/

namespace ImpLang

/-- A counting loop in terms of `whileDo`. -/
def Stmt.countUp (counter : Name) (low high : Expr) (body : Stmt) : Stmt :=
  .seq (.assign counter low)
    (.whileDo (.le (.var counter) high)
      (.seq body (.assign counter (.add (.var counter) (.int 1)))))

namespace LoopControl

variable {counter : Name} {high : Expr} {store : Store}

/-- The step of a counter, as a control takes it and as an assignment does. -/
theorem leave_forTo_eq (counter : Name) (high : Expr) (store : Store) :
    (forTo counter high).leave store =
      ((Expr.add (.var counter) (.int 1)).evalInt store (.assignment counter)).map fun next =>
        (store.bind counter next, true) := by
  cases counted : store.lookup counter with
  | error fault =>
    have failed : (Expr.add (.var counter) (.int 1)).eval store = .error fault :=
      Expr.eval_binary_of_left (Expr.eval_var_of_error counted)
    rw [leave_forTo_error.mpr (Or.inl counted), Expr.evalInt_of_error failed]
    rfl
  | ok current =>
    have one : (Expr.int 1).eval store = .ok (.int 1) := rfl
    have sum : (Expr.add (.var counter) (.int 1)).eval store =
        (ArithOp.add.apply current 1).map .int :=
      Expr.eval_binary_of_ok (Expr.eval_var_of_ok counted) one
    cases added : ArithOp.add.apply current 1 with
    | error fault =>
      rw [added] at sum
      rw [leave_forTo_error.mpr (Or.inr ⟨current, counted, added⟩), Expr.evalInt_of_error sum]
      rfl
    | ok next =>
      rw [added] at sum
      rw [leave_forTo_ok.mpr ⟨current, next, counted, added, rfl, rfl⟩, Expr.evalInt_of_ok sum]
      rfl

/-- With an upper bound that is an integer the two tests are the same. -/
theorem enter_forTo_eq (isInt : high.kind = .int) (store : Store) :
    (forTo counter high).enter store =
      (whileDo (.le (.var counter) high)).enter store := by
  show _ = (Expr.le (.var counter) high).evalBool store (.statement .whileDo)
  cases counted : store.lookup counter with
  | error fault =>
    have failed : (Expr.le (.var counter) high).eval store = .error fault :=
      Expr.eval_binary_of_left (Expr.eval_var_of_error counted)
    rw [enter_forTo_error.mpr (Or.inl counted), Expr.evalBool_of_error failed]
  | ok current =>
    have read := Expr.eval_var_of_ok counted
    cases found : high.eval store with
    | error fault =>
      have failed : (Expr.le (.var counter) high).eval store = .error fault :=
        Expr.eval_binary_of_right read found
      rw [enter_forTo_error.mpr (Or.inr ⟨current, counted, Expr.evalInt_of_error found⟩),
        Expr.evalBool_of_error failed]
    | ok value =>
      obtain ⟨bound, rfl⟩ := Expr.eval_int isInt found
      have compared : (Expr.le (.var counter) high).eval store =
          .ok (.bool (decide (current ≤ bound))) := Expr.eval_binary_of_ok read found
      rw [enter_forTo_ok.mpr ⟨current, bound, counted, Expr.evalInt_of_ok found, rfl⟩,
        Expr.evalBool_of_ok compared]
      rfl

/-- An upper bound that has a truth value for its value is refused by both tests. -/
theorem enter_forTo_misfit {current : Int64} {b : Bool}
    (counted : store.lookup counter = .ok current) (isBool : high.eval store = .ok (.bool b)) :
    (forTo counter high).enter store = .error (.mismatch (.statement .forTo) .int .bool) ∧
      (whileDo (.le (.var counter) high)).enter store =
        .error (.mismatch (.operator (.compare .le)) .int .bool) := by
  have refused : (Expr.le (.var counter) high).eval store =
      .error (.mismatch (.operator (.compare .le)) .int .bool) :=
    Expr.eval_binary_of_ok (Expr.eval_var_of_ok counted) isBool
  refine ⟨?_, Expr.evalBool_of_error refused⟩
  exact enter_forTo_error.mpr (Or.inr ⟨current, counted, Expr.evalInt_of_ok isBool⟩)

/-- With an upper bound that is a truth value both tests fail, with the fault of the bound if it has
one, and otherwise by blaming two different places for its kind. -/
theorem enter_forTo_bool (isBool : high.kind = .bool) {current : Int64}
    (counted : store.lookup counter = .ok current) :
    (∃ fault, high.eval store = .error fault ∧ (forTo counter high).enter store = .error fault ∧
      (whileDo (.le (.var counter) high)).enter store = .error fault) ∨
    ∃ b, high.eval store = .ok (.bool b) ∧
      (forTo counter high).enter store = .error (.mismatch (.statement .forTo) .int .bool) ∧
      (whileDo (.le (.var counter) high)).enter store =
        .error (.mismatch (.operator (.compare .le)) .int .bool) := by
  cases found : high.eval store with
  | error fault =>
    have failed : (Expr.le (.var counter) high).eval store = .error fault :=
      Expr.eval_binary_of_right (Expr.eval_var_of_ok counted) found
    refine Or.inl ⟨fault, rfl, ?_, Expr.evalBool_of_error failed⟩
    exact enter_forTo_error.mpr (Or.inr ⟨current, counted, Expr.evalInt_of_error found⟩)
  | ok value =>
    obtain ⟨b, rfl⟩ := Expr.eval_bool isBool found
    exact Or.inr ⟨b, rfl, enter_forTo_misfit counted found⟩

/-- Round by round the two loops do the same, and count the same number of rounds. -/
theorem iterate_forTo_agree (settings : Settings) (counter : Name) (body : Stmt)
    (isInt : high.kind = .int) (fuel rest : Nat) (rounds : UInt64) (store : Store)
    {console console' : Console} (alike : console.Alike console') :
    ((forTo counter high).iterate settings.maxIterations
      (fun store console => body.exec settings fuel store console) rest rounds store console).Agree
      Eq ((whileDo (.le (.var counter) high)).iterate settings.maxIterations
        (fun store console => (Stmt.seq body
          (.assign counter (.add (.var counter) (.int 1)))).exec settings fuel store console)
        rest rounds store console') := by
  refine iterate_rel ?enter ?count ?go ?finish rest rfl ⟨rfl, alike⟩
  case enter =>
    intro store console store' console' related
    obtain ⟨rfl, alike⟩ := related
    rw [enter_forTo_eq isInt]
    exact .self _ fun fault _ => ⟨rfl, alike⟩
  case count =>
    intro rounds rounds' store console store' console' counted related
    rw [counted]
    exact .self _ fun fault _ => ⟨rfl, related.2⟩
  case go =>
    intro store console store' console' next next' related nextAgree
    obtain ⟨rfl, alike⟩ := related
    rw [round, round, Stmt.exec, Outcome.andThen_assoc]
    refine .andThen (body.exec_alike settings fuel store alike) ?_
    intro after console after' console' related
    obtain ⟨rfl, alike⟩ := related
    -- The step of the counter is the end of a round here and the end of the body there.
    rw [leave_forTo_eq, Stmt.exec]
    cases (Expr.add (.var counter) (.int 1)).evalInt after (.assignment counter) with
    | error fault => exact .failed ⟨rfl, alike⟩
    | ok increased => exact nextAgree true _ _ _ _ ⟨rfl, alike.record_right _⟩
  case finish =>
    intro rounds rounds' store console store' console' _ related
    exact ⟨related.1, related.2.record _ _⟩

end LoopControl

/-- What a counting loop and the same loop written out report of a failure. The reports differ in
the place that is blamed, exactly if a bound is a truth value when it is first needed. -/
inductive Stmt.CountingCauses (counter : Name) (low high : Expr) (store : Store) :
    Diagnostic → Diagnostic → Prop
  | low {b : Bool} (isBool : low.eval store = .ok (.bool b)) :
      CountingCauses counter low high store (.typeMismatch "for bound" "int" "bool")
        (.typeMismatch ("assignment to `" ++ counter.text ++ "`") "int" "bool")
  | high {n : Int64} {b : Bool} (isInt : low.eval store = .ok (.int n))
      (isBool : high.eval (store.bind counter n) = .ok (.bool b)) :
      CountingCauses counter low high store (.typeMismatch "for bound" "int" "bool")
        (.typeMismatch "operator `<=`" "int" "bool")
  | same (diagnostic : Diagnostic) (lowFits : ∀ b, low.eval store ≠ .ok (.bool b))
      (highFits : ∀ n b, low.eval store = .ok (.int n) →
        high.eval (store.bind counter n) ≠ .ok (.bool b)) :
      CountingCauses counter low high store diagnostic diagnostic

/-- The loops once the counter is set. -/
theorem Stmt.iterate_forTo_causes (settings : Settings) {counter : Name} {low high : Expr}
    (body : Stmt) {store : Store} {n : Int64} (found : low.eval store = .ok (.int n)) (fuel : Nat)
    (console : Console) :
    ((LoopControl.forTo counter high).iterate settings.maxIterations
        (fun store console => body.exec settings (fuel + 1) store console) (fuel + 1) 0
        (store.bind counter n) console).Agree
      (fun fault fault' =>
        CountingCauses counter low high store fault.diagnostic fault'.diagnostic)
      ((Stmt.whileDo (.le (.var counter) high)
        (.seq body (.assign counter (.add (.var counter) (.int 1))))).exec settings (fuel + 1)
        (store.bind counter n) (console.record (.assigned counter n))) := by
  have lowFits : ∀ b, low.eval store ≠ .ok (.bool b) := by simp [found]
  have alike := (Console.Alike.refl console).record_right (.assigned counter n)
  have counted := store.lookup_bind_self counter n
  cases isKind : high.kind with
  | int =>
    have highFits : ∀ m b, low.eval store = .ok (.int m) →
        high.eval (store.bind counter m) ≠ .ok (.bool b) := by
      intro m b _ isBool
      have same := Expr.eval_kind isBool
      simp [isKind, Value.kind] at same
    have agree := LoopControl.iterate_forTo_agree settings counter body isKind (fuel + 1)
      (fuel + 1) 0 (store.bind counter n) alike
    exact agree.weaken fun fault => .same fault.diagnostic lowFits highFits
  | bool =>
    rw [exec, LoopControl.iterate_succ, LoopControl.iterate_succ]
    rcases LoopControl.enter_forTo_bool isKind counted with
      ⟨fault, failed, first, second⟩ | ⟨b, isBool, first, second⟩
    · rw [first, second]
      refine .failed ⟨.same _ lowFits ?_, alike⟩
      intro m b isInt
      rw [found] at isInt
      cases isInt
      simp [failed]
    · rw [first, second]
      exact .failed ⟨.high found isBool, alike⟩

/-- A lower bound that is a truth value is refused by the loop, and by the assignment of it. -/
theorem Stmt.forTo_low_misfit {settings : Settings} {counter : Name} {low : Expr} {store : Store}
    {b : Bool} (isBool : low.eval store = .ok (.bool b)) (high : Expr) (body : Stmt)
    (console : Console) :
    (Stmt.forTo counter low high body).EndsIn settings store console
        (.failed (.mismatch (.statement .forTo) .int .bool) console) ∧
      (countUp counter low high body).EndsIn settings store console
        (.failed (.mismatch (.assignment counter) .int .bool) console) := by
  have refused (site : Site) : low.evalInt store site = .error (.mismatch site .int .bool) :=
    Expr.evalInt_of_ok isBool
  have looped : (Stmt.forTo counter low high body).exec settings 0 store console =
      .failed (.mismatch (.statement .forTo) .int .bool) console := by
    rw [exec, refused, Outcome.attempt_error]
  refine ⟨⟨Outcome.failed_ne_outOfFuel _ _, 0, looped⟩, ?_⟩
  exact (EndsIn.assignFails (refused _)).seqFails _

/-- An upper bound that is a truth value is refused once the counter is set. -/
theorem Stmt.forTo_high_misfit {settings : Settings} {counter : Name} {low high : Expr}
    {store : Store} {n : Int64} {b : Bool} (isInt : low.eval store = .ok (.int n))
    (isBool : high.eval (store.bind counter n) = .ok (.bool b)) (body : Stmt) (console : Console) :
    (Stmt.forTo counter low high body).EndsIn settings store console
        (.failed (.mismatch (.statement .forTo) .int .bool) console) ∧
      (countUp counter low high body).EndsIn settings store console
        (.failed (.mismatch (.operator (.compare .le)) .int .bool)
          (console.record (.assigned counter n))) := by
  obtain ⟨first, second⟩ :=
    LoopControl.enter_forTo_misfit (store.lookup_bind_self counter n) isBool
  exact ⟨.forTo isInt (.enterFails first),
    (EndsIn.assign isInt counter).seq (.whileDo (.enterFails second))⟩

/-- A counting loop agrees with what it stands for under every limit, whatever its body does. If its
lower bound is a truth value, or its upper bound is one once the counter is set, both fail and
differ in the place they blame. -/
theorem Stmt.forTo_agree (settings : Settings) (counter : Name) (low high : Expr) (body : Stmt)
    (store : Store) (console : Console) :
    (Stmt.forTo counter low high body).Agree (CountingCauses counter low high store) settings
      (countUp counter low high body) store console ∧
    (∀ b, low.eval store = .ok (.bool b) →
      (Stmt.forTo counter low high body).EndsIn settings store console
          (.failed (.mismatch (.statement .forTo) .int .bool) console) ∧
        (countUp counter low high body).EndsIn settings store console
          (.failed (.mismatch (.assignment counter) .int .bool) console)) ∧
    ∀ n b, low.eval store = .ok (.int n) → high.eval (store.bind counter n) = .ok (.bool b) →
      (Stmt.forTo counter low high body).EndsIn settings store console
          (.failed (.mismatch (.statement .forTo) .int .bool) console) ∧
        (countUp counter low high body).EndsIn settings store console
          (.failed (.mismatch (.operator (.compare .le)) .int .bool)
            (console.record (.assigned counter n))) := by
  refine ⟨?_, fun b isBool => forTo_low_misfit isBool high body console,
    fun n b isInt isBool => forTo_high_misfit isInt isBool body console⟩
  refine agree_of_exec fun fuel => ?_
  rw [countUp, exec, exec, exec]
  cases found : low.eval store with
  | error fault =>
    simp only [Expr.evalInt, found]
    exact .failed ⟨.same _ (by simp [found]) (by simp [found]), .refl console⟩
  | ok value =>
    cases value with
    | bool b =>
      simp only [Expr.evalInt, found]
      exact .failed ⟨.low found, .refl console⟩
    | int n =>
      simp only [Expr.evalInt, found]
      exact iterate_forTo_causes settings body found fuel console

end ImpLang
