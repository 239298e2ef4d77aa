import ImpLang.Proofs.Effects
import ImpLang.Proofs.Ending
import ImpLang.Proofs.Static

/-!
# Static conditions are enough

A well-typed statement whose variables are all bound where they are used never meets a value of the
wrong kind nor a name without a value. What it can still fail of depends on its numbers, its input
and its limit. The invariant that carries this through all forms of statement and all rounds of a
loop is that the names bound for certain are bound in the store.
-/

namespace ImpLang

/-- The faults that no static condition excludes. -/
def Fault.Dynamic (fault : Fault) : Prop :=
  (∃ op, fault = .divisionByZero op) ∨ (∃ op, fault = .overflow op) ∨
    (∃ target, fault = .inputClosed target) ∨ ∃ limit, fault = .budgetExceeded limit

/-- All of these names are bound. -/
def Store.Covers (store : Store) (bound : Finset Name) : Prop :=
  ∀ name ∈ bound, name ∈ store.names

namespace Store.Covers

variable {store : Store} {bound fewer : Finset Name}

theorem mono (covers : store.Covers bound) (subset : fewer ⊆ bound) : store.Covers fewer :=
  fun name member => covers name (subset member)

theorem bind (covers : store.Covers bound) (name : Name) (value : Int64) :
    (store.bind name value).Covers (insert name bound) := by
  intro other member
  rw [Store.mem_names_bind]
  rcases Finset.mem_insert.mp member with same | old
  · exact Or.inl same
  · exact Or.inr (covers other old)

end Store.Covers

/-! ## Expressions -/

theorem ArithOp.apply_dynamic {op : ArithOp} {a b : Int64} {fault : Fault}
    (failed : op.apply a b = .error fault) : fault.Dynamic := by
  unfold ArithOp.apply at failed
  split at failed
  · cases failed
    exact Or.inl ⟨_, rfl⟩
  · split at failed
    · cases failed
    · cases failed
      exact Or.inr (Or.inl ⟨op, rfl⟩)

namespace Expr

variable {e : Expr} {store : Store} {kind : Kind} {fault : Fault} {site : Site}

theorem eval_binary_error {op : BinaryOp} {left right : Expr}
    (failed : (Expr.binary op left right).eval store = .error fault) :
    left.eval store = .error fault ∨ right.eval store = .error fault ∨
      ∃ a b, left.eval store = .ok a ∧ right.eval store = .ok b ∧ op.apply a b = .error fault := by
  rcases bind_eq_error.mp failed with early | ⟨a, first, rest⟩
  · exact Or.inl early
  · rcases bind_eq_error.mp rest with late | ⟨b, second, applied⟩
    · exact Or.inr (Or.inl late)
    · exact Or.inr (Or.inr ⟨a, b, first, second, applied⟩)

/-- An expression with the right operands and bound variables fails only of its numbers. -/
theorem HasKind.eval_dynamic (typed : e.HasKind kind) (covers : store.Covers e.vars)
    (failed : e.eval store = .error fault) : fault.Dynamic := by
  induction typed with
  | lit value => cases failed
  | var name =>
    have bound : name ∈ store.names := covers name (Finset.mem_singleton_self name)
    cases found : store.lookup name with
    | error fault => exact absurd bound (Store.lookup_eq_error_iff.mp found).1
    | ok n =>
      rw [eval_var_of_ok found] at failed
      cases failed
  | arith op leftInt rightInt leftDynamic rightDynamic =>
    rcases eval_binary_error failed with early | late | ⟨a, b, first, second, applied⟩
    · exact leftDynamic (covers.mono Finset.subset_union_left) early
    · exact rightDynamic (covers.mono Finset.subset_union_right) late
    · obtain ⟨m, rfl⟩ := eval_int leftInt.kind_eq first
      obtain ⟨n, rfl⟩ := eval_int rightInt.kind_eq second
      cases result : op.apply m n with
      | error fault =>
        simp only [BinaryOp.apply, result, Except.map, Except.error.injEq] at applied
        rw [← applied]
        exact ArithOp.apply_dynamic result
      | ok value => simp [BinaryOp.apply, result, Except.map] at applied
  | compare op leftInt rightInt leftDynamic rightDynamic =>
    rcases eval_binary_error failed with early | late | ⟨a, b, first, second, applied⟩
    · exact leftDynamic (covers.mono Finset.subset_union_left) early
    · exact rightDynamic (covers.mono Finset.subset_union_right) late
    · obtain ⟨m, rfl⟩ := eval_int leftInt.kind_eq first
      obtain ⟨n, rfl⟩ := eval_int rightInt.kind_eq second
      cases applied
  | and leftBool rightBool leftDynamic rightDynamic =>
    rcases eval_binary_error failed with early | late | ⟨a, b, first, second, applied⟩
    · exact leftDynamic (covers.mono Finset.subset_union_left) early
    · exact rightDynamic (covers.mono Finset.subset_union_right) late
    · obtain ⟨m, rfl⟩ := eval_bool leftBool.kind_eq first
      obtain ⟨n, rfl⟩ := eval_bool rightBool.kind_eq second
      cases applied
  | not operandBool operandDynamic =>
    rcases bind_eq_error.mp failed with early | ⟨a, found, negated⟩
    · exact operandDynamic covers early
    · obtain ⟨b, rfl⟩ := eval_bool operandBool.kind_eq found
      cases negated

theorem HasKind.evalInt_dynamic (typed : e.HasKind .int) (covers : store.Covers e.vars)
    (failed : e.evalInt store site = .error fault) : fault.Dynamic := by
  rcases bind_eq_error.mp failed with early | ⟨value, found, refused⟩
  · exact typed.eval_dynamic covers early
  · obtain ⟨n, rfl⟩ := eval_int typed.kind_eq found
    cases refused

theorem HasKind.evalBool_dynamic (typed : e.HasKind .bool) (covers : store.Covers e.vars)
    (failed : e.evalBool store site = .error fault) : fault.Dynamic := by
  rcases bind_eq_error.mp failed with early | ⟨value, found, refused⟩
  · exact typed.eval_dynamic covers early
  · obtain ⟨b, rfl⟩ := eval_bool typed.kind_eq found
    cases refused

end Expr

/-! ## Statements -/

/-- Every end is with these names bound or with a dynamic fault. -/
def Outcome.Safe (bound : Finset Name) : Outcome Fault → Prop :=
  All (fun store _ => store.Covers bound) (fun fault _ => fault.Dynamic)

/-- A loop is safe if its control fails only of dynamic faults where the names are bound, and keeps
them so. What is bound at the end is what is bound wherever the control can say no. -/
theorem LoopControl.iterate_safe {control : LoopControl} {limit : Option UInt64}
    {body : Store → Console → Outcome Fault} (bound inside final : Finset Name)
    (enterFails : ∀ {store fault}, store.Covers bound → control.enter store = .error fault →
      fault.Dynamic)
    (stops : ∀ {store}, store.Covers bound → control.enter store = .ok false → store.Covers final)
    (bodySafe : ∀ store console, store.Covers bound → (body store console).Safe inside)
    (leaveFails : ∀ {store fault}, store.Covers inside → control.leave store = .error fault →
      fault.Dynamic)
    (leaves : ∀ {store next again}, store.Covers inside → control.leave store = .ok (next, again) →
      next.Covers (if again then bound else final))
    (fuel : Nat) (rounds : UInt64) {store : Store} (console : Console)
    (covers : store.Covers bound) :
    (control.iterate limit body fuel rounds store console).Safe final := by
  refine iterate_all (fun store _ => store.Covers bound) ?_ ?_ ?_ ?_ fuel rounds covers
  · exact fun covers failed => enterFails covers failed
  · exact fun rounds covers stopped => stops covers stopped
  · intro store console rounds fault _ _ refused
    obtain ⟨most, _, _, same⟩ := beginRound_eq_error_iff.mp refused
    rw [← same]
    exact Or.inr (Or.inr (Or.inr ⟨most, rfl⟩))
  · intro store console covers _
    refine (bodySafe store console covers).mono ?_ fun _ _ dynamic => dynamic
    intro after between covered
    refine ⟨fun fault failed => leaveFails covered failed, ?_, ?_⟩
    · intro next left
      exact leaves covered left
    · intro next rounds left
      exact leaves covered left

namespace Stmt

/-- What the static conditions allow is kept by every form of statement. -/
theorem exec_dynamic (settings : Settings) (fuel : Nat) {s : Stmt} (typed : s.WellTyped)
    {bound : Finset Name} (defined : s.Defined bound) {store : Store} (covers : store.Covers bound)
    (console : Console) : (s.exec settings fuel store console).Safe (s.binds bound) := by
  induction s generalizing bound store console with
  | skip => exact .done covers
  | assign target value =>
    refine .attempt (fun fault failed => ?_) fun n _ => .done (covers.bind target n)
    exact Expr.HasKind.evalInt_dynamic typed (covers.mono defined) failed
  | seq first rest firstSafe restSafe =>
    refine (firstSafe typed.1 defined.1 covers console).andThen fun middle between covered => ?_
    exact restSafe typed.2 defined.2 covered between
  | ifThenElse cond yes no yesSafe noSafe =>
    obtain ⟨isBool, yesTyped, noTyped⟩ := typed
    obtain ⟨tested, yesDefined, noDefined⟩ := defined
    refine .attempt (fun fault failed => ?_) fun holds _ => ?_
    · exact isBool.evalBool_dynamic (covers.mono tested) failed
    cases holds with
    | false =>
      refine (noSafe noTyped noDefined covers console).mono ?_ fun _ _ dynamic => dynamic
      exact fun after _ covered => covered.mono Finset.inter_subset_right
    | true =>
      refine (yesSafe yesTyped yesDefined covers console).mono ?_ fun _ _ dynamic => dynamic
      exact fun after _ covered => covered.mono Finset.inter_subset_left
  | ifThen cond body bodySafe =>
    obtain ⟨isBool, bodyTyped⟩ := typed
    obtain ⟨tested, bodyDefined⟩ := defined
    refine .attempt (fun fault failed => ?_) fun holds _ => ?_
    · exact isBool.evalBool_dynamic (covers.mono tested) failed
    cases holds with
    | false => exact .done covers
    | true =>
      refine (bodySafe bodyTyped bodyDefined covers console).mono ?_ fun _ _ dynamic => dynamic
      exact fun after _ covered => covered.mono (body.subset_binds bound)
  | whileDo cond body bodySafe =>
    obtain ⟨isBool, bodyTyped⟩ := typed
    obtain ⟨tested, bodyDefined⟩ := defined
    refine LoopControl.iterate_safe bound (body.binds bound) bound ?_ ?_ ?_ ?_ ?_ fuel 0 console
      covers
    · exact fun covers failed => isBool.evalBool_dynamic (covers.mono tested) failed
    · exact fun covers _ => covers
    · exact fun store console covers => bodySafe bodyTyped bodyDefined covers console
    · exact fun _ failed => nomatch failed
    · intro store next again covered left
      cases left
      exact covered.mono (body.subset_binds bound)
  | repeatUntil body cond bodySafe =>
    obtain ⟨isBool, bodyTyped⟩ := typed
    obtain ⟨bodyDefined, tested⟩ := defined
    refine LoopControl.iterate_safe bound (body.binds bound) (body.binds bound) ?_ ?_ ?_ ?_ ?_ fuel
      0 console covers
    · exact fun _ failed => nomatch failed
    · exact fun _ stopped => nomatch stopped
    · exact fun store console covers => bodySafe bodyTyped bodyDefined covers console
    · intro store fault covered failed
      have untested := LoopControl.leave_repeatUntil_error.mp failed
      exact isBool.evalBool_dynamic (covered.mono tested) untested
    · intro store next again covered left
      obtain ⟨rfl, _⟩ := LoopControl.leave_repeatUntil_ok.mp left
      cases again with
      | false => exact covered
      | true => exact covered.mono (body.subset_binds bound)
  | doWhile body cond bodySafe =>
    obtain ⟨isBool, bodyTyped⟩ := typed
    obtain ⟨bodyDefined, tested⟩ := defined
    refine LoopControl.iterate_safe bound (body.binds bound) (body.binds bound) ?_ ?_ ?_ ?_ ?_ fuel
      0 console covers
    · exact fun _ failed => nomatch failed
    · exact fun _ stopped => nomatch stopped
    · exact fun store console covers => bodySafe bodyTyped bodyDefined covers console
    · intro store fault covered failed
      have untested := LoopControl.leave_doWhile_error.mp failed
      exact isBool.evalBool_dynamic (covered.mono tested) untested
    · intro store next again covered left
      obtain ⟨rfl, _⟩ := LoopControl.leave_doWhile_ok.mp left
      cases again with
      | false => exact covered
      | true => exact covered.mono (body.subset_binds bound)
  | forTo counter low high body bodySafe =>
    obtain ⟨lowInt, highInt, bodyTyped⟩ := typed
    obtain ⟨started, bounded, bodyDefined⟩ := defined
    refine .attempt (fun fault failed => ?_) fun start _ => ?_
    · exact lowInt.evalInt_dynamic (covers.mono started) failed
    have keeps := body.subset_binds (insert counter bound)
    have counted {store : Store} {fault : Fault} (covered : store.Covers (insert counter bound)) :
        store.lookup counter ≠ .error fault := by
      intro failed
      exact (Store.lookup_eq_error_iff.mp failed).1 (covered counter (Finset.mem_insert_self _ _))
    refine LoopControl.iterate_safe (insert counter bound) (body.binds (insert counter bound))
      (insert counter bound) ?_ ?_ ?_ ?_ ?_ fuel 0 console (covers.bind counter start)
    · intro store fault covered failed
      rcases LoopControl.enter_forTo_error.mp failed with lost | ⟨current, _, failed⟩
      · exact absurd lost (counted covered)
      · exact highInt.evalInt_dynamic (covered.mono bounded) failed
    · exact fun covered _ => covered
    · exact fun store console covered => bodySafe bodyTyped bodyDefined covered console
    · intro store fault covered failed
      rcases LoopControl.leave_forTo_error.mp failed with lost | ⟨current, _, failed⟩
      · exact absurd lost (counted (covered.mono keeps))
      · exact ArithOp.apply_dynamic failed
    · intro store next again covered left
      obtain ⟨_, increased, _, _, rfl, rfl⟩ := LoopControl.leave_forTo_ok.mp left
      have kept := (covered.mono keeps).bind counter increased
      exact kept.mono (Finset.subset_insert _ _)
  | readNum target =>
    rw [exec]
    split
    · exact .done (covers.bind target _)
    · exact .failed (Or.inr (Or.inr (Or.inl ⟨target, rfl⟩)))
  | writeNum value =>
    refine .attempt (fun fault failed => ?_) fun n _ => .done covers
    exact Expr.HasKind.evalInt_dynamic typed (covers.mono defined) failed
  | writeStr text => exact .done covers

/-- A well-typed statement all of whose variables are bound where they are used, if those of the
store are bound before, is done or fails of its numbers, its input or its limit: never of a kind or
of a name without a value. When it is done, the names it binds for certain are bound. -/
theorem exec_safe {s : Stmt} {store : Store} (typed : s.WellTyped)
    (defined : s.Defined store.names.toFinset) (settings : Settings) (console : Console)
    {outcome : Outcome Fault} (ends : s.EndsIn settings store console outcome) :
    (∃ final after, outcome = .done final after ∧
      s.binds store.names.toFinset ⊆ final.names.toFinset) ∨
    ∃ fault after, outcome = .failed fault after ∧
      ((∃ op, fault = .divisionByZero op) ∨ (∃ op, fault = .overflow op) ∨
        (∃ target, fault = .inputClosed target) ∨ ∃ limit, fault = .budgetExceeded limit) := by
  obtain ⟨ended, fuel, reached⟩ := ends
  have covers : store.Covers store.names.toFinset := fun name member => List.mem_toFinset.mp member
  have safe := exec_dynamic settings fuel typed defined covers console
  rw [reached] at safe
  cases safe with
  | done covered =>
    exact Or.inl ⟨_, _, rfl, fun name member => List.mem_toFinset.mpr (covered name member)⟩
  | failed dynamic => exact Or.inr ⟨_, _, rfl, dynamic⟩
  | outOfFuel => exact absurd rfl ended

/-- The bound of the counting loop is read in the body of a loop that tests after it; the last round
divides by zero. -/
theorem exec_safe_reading : ∃ s : Stmt,
    s = .seq (.repeatUntil (.readNum ⟨"n"⟩) (.gt (.named "n") (.int 0)))
      (.forTo ⟨"i"⟩ (.int 1) (.named "n")
        (.writeNum (.div (.int 6) (.sub (.named "n") (.named "i"))))) ∧
    s.WellTyped ∧ s.Defined Store.empty.names.toFinset ∧
    ∃ fault after, s.EndsIn {} .empty { source := .script ["0", "2"], sink := .buffer }
        (.failed fault after) ∧
      ((∃ op, fault = .divisionByZero op) ∨ (∃ op, fault = .overflow op) ∨
        (∃ target, fault = .inputClosed target) ∨ ∃ limit, fault = .budgetExceeded limit) := by
  obtain ⟨s, known⟩ : ∃ s : Stmt,
      s = .seq (.repeatUntil (.readNum ⟨"n"⟩) (.gt (.named "n") (.int 0)))
        (.forTo ⟨"i"⟩ (.int 1) (.named "n")
          (.writeNum (.div (.int 6) (.sub (.named "n") (.named "i"))))) := ⟨_, rfl⟩
  have typed : s.WellTyped := by
    rw [known]
    decide
  have defined : s.Defined Store.empty.names.toFinset := by
    rw [known]
    decide
  have ends : s.EndsIn {} .empty { source := .script ["0", "2"], sink := .buffer }
      (.failed (.divisionByZero (.arith .div))
        { source := .script [], sink := .buffer, printed := #[.written "6"],
          events := #[.read ⟨"n"⟩ 0, .read ⟨"n"⟩ 2, .loopFinished .repeatUntil 2] }) := by
    refine ⟨nofun, 3, ?_⟩
    rw [known]
    decide +kernel
  refine ⟨s, known, typed, defined, _, _, ends, ?_⟩
  rcases exec_safe typed defined {} _ ends with ⟨_, _, same, _⟩ | ⟨_, _, same, dynamic⟩
  · cases same
  · cases same
    exact dynamic

end Stmt

end ImpLang
