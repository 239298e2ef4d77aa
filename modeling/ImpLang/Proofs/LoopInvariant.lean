import ImpLang.Proofs.CourseRules
import ImpLang.Proofs.ExactValue

/-!
# Loop invariants

What a body keeps from one round to the next, a loop keeps from its beginning to its end, and then
the answer to its last question holds as well. There is one rule for all controls of loops
(`Opens.establishes`); the rules for the four forms of loop are instances of it.
-/

namespace ImpLang

/-- Every run from a store of the first kind that is done leaves a store of the second kind. -/
def Stmt.Establishes (settings : Settings) (s : Stmt) (before after : Store → Prop) : Prop :=
  ∀ store console final rest, before store →
    s.EndsIn settings store console (.done final rest) → after final

namespace Stmt

variable {settings : Settings} {s body : Stmt} {before after inv : Store → Prop}
  {store first final : Store} {console rest : Console} {control : LoopControl} {cond : Expr}

theorem Establishes.all (establishes : s.Establishes settings before after) (holds : before store)
    (fuel : Nat) (console : Console) :
    (s.exec settings fuel store console).All (fun final _ => after final) fun _ _ => True := by
  cases ran : s.exec settings fuel store console with
  | outOfFuel => exact .outOfFuel
  | failed fault rest => exact .failed trivial
  | done final rest =>
    exact .done (establishes store console final rest holds ⟨nofun, fuel, ran⟩)

theorem Opens.exec_eq (opens : s.Opens store control body first) (settings : Settings)
    (fuel : Nat) (console : Console) :
    s.exec settings fuel store console = control.iterate settings.maxIterations
      (fun store console => body.exec settings fuel store console) fuel 0 first console := by
  rw [← watch_outcome, opens.watch_eq, LoopControl.watch_outcome]

/-- The invariant rule. What holds before each question whether to begin a round holds again after
the round, if there is another, and gives what is wanted wherever the loop ends. -/
theorem Opens.establishes (opens : s.Opens store control body first) (inv goal : Store → Prop)
    (start : inv first)
    (stops : ∀ store, inv store → control.enter store = .ok false → goal store)
    (goesOn : body.Establishes settings (fun store => inv store ∧ control.enter store = .ok true)
      fun store => (∀ next, control.leave store = .ok (next, true) → inv next) ∧
        ∀ next, control.leave store = .ok (next, false) → goal next)
    (ends : s.EndsIn settings store console (.done final rest)) : goal final := by
  obtain ⟨_, fuel, reached⟩ := ends
  have all : (s.exec settings fuel store console).All (fun final _ => goal final)
      fun _ _ => True := by
    rw [opens.exec_eq]
    refine LoopControl.iterate_all (fun store _ => inv store) ?enterFails ?stops ?countFails ?goesOn
      fuel 0 start
    case enterFails => exact fun _ _ => trivial
    case stops => exact fun _ kept stopped => stops _ kept stopped
    case countFails => exact fun _ _ _ => trivial
    case goesOn =>
      intro store console kept entered
      refine (goesOn.all ⟨kept, entered⟩ fuel console).mono ?_ fun _ _ failed => failed
      intro after _ left
      exact ⟨fun _ _ => trivial, left.1, fun next _ stopped => left.2 next stopped⟩
  rw [reached] at all
  cases all with
  | done holds => exact holds

/-- Loops that ask after each round. The first begins from the store the loop begins with, the
others from a store in which the condition had the answer that makes the loop go on. -/
theorem Opens.establishes_after (opens : s.Opens store control body first) (answer : Bool → Bool)
    (enters : ∀ store, control.enter store = .ok true)
    (leaves : ∀ {store next again}, control.leave store = .ok (next, again) →
      next = store ∧ cond.eval store = .ok (.bool (answer again)))
    (kept : body.Establishes settings
      (fun store => store = first ∨ inv store ∧ cond.eval store = .ok (.bool (answer true))) inv)
    (ends : s.EndsIn settings store console (.done final rest)) :
    inv final ∧ cond.eval final = .ok (.bool (answer false)) := by
  refine opens.establishes
    (fun store => store = first ∨ inv store ∧ cond.eval store = .ok (.bool (answer true)))
    (fun store => inv store ∧ cond.eval store = .ok (.bool (answer false)))
    (Or.inl rfl) ?_ ?_ ends
  · intro store _ stopped
    rw [enters] at stopped
    cases stopped
  · intro store console final rest holds ran
    have again : inv final := kept store console final rest holds.1 ran
    constructor
    · intro next left
      obtain ⟨rfl, answered⟩ := leaves left
      exact Or.inr ⟨again, answered⟩
    · intro next left
      obtain ⟨rfl, answered⟩ := leaves left
      exact ⟨again, answered⟩

/-- A loop has had a body: the first one began where the loop did, and was done. -/
def HasRun (settings : Settings) (s body : Stmt) (store : Store) (console : Console) : Prop :=
  (∃ course later, s.Takes settings store console course ∧
    course.begun = (store, console) :: later) ∧
  ∃ after between, body.EndsIn settings store console (.done after between)

theorem Opens.hasRun (opens : s.Opens store control body store)
    (enters : ∀ store, control.enter store = .ok true)
    (ends : s.EndsIn settings store console (.done final rest)) :
    s.HasRun settings body store console := by
  obtain ⟨course, takes, done⟩ := ends.takes
  obtain ⟨⟨later, begun⟩, ran⟩ :=
    (opens.takes_iff.mp takes).begun_of_done (enters store) done
  exact ⟨⟨course, later, takes, begun⟩, ran⟩

theorem whileDo_establishes
    (kept : body.Establishes settings
      (fun store => inv store ∧ cond.eval store = .ok (.bool true)) inv) :
    (Stmt.whileDo cond body).Establishes settings inv
      fun store => inv store ∧ cond.eval store = .ok (.bool false) := by
  intro store console final rest start ends
  refine Opens.whileDo.establishes inv
    (fun store => inv store ∧ cond.eval store = .ok (.bool false)) start ?_ ?_ ends
  · intro store holds stopped
    exact ⟨holds, Expr.evalBool_eq_ok_iff.mp stopped⟩
  · intro store console final rest holds ran
    have again : inv final :=
      kept store console final rest ⟨holds.1, Expr.evalBool_eq_ok_iff.mp holds.2⟩ ran
    constructor
    · intro next left
      cases left
      exact again
    · intro next left
      cases left

/-- The body of a counting loop keeps the invariant together with the step of the counter. -/
theorem forTo_establishes {counter : Name} {low high : Expr}
    (start : ∀ l, low.eval store = .ok (.int l) → inv (store.bind counter l))
    (kept : body.Establishes settings
      (fun store => inv store ∧ ∃ current bound, store.get? counter = some current ∧
        high.eval store = .ok (.int bound) ∧ current ≤ bound)
      fun store => ∀ current next, store.get? counter = some current →
        next.toInt = current.toInt + 1 → inv (store.bind counter next))
    (ends : (Stmt.forTo counter low high body).EndsIn settings store console (.done final rest)) :
    inv final ∧ ∃ current bound, final.get? counter = some current ∧
      high.eval final = .ok (.int bound) ∧ bound < current := by
  cases started : low.evalInt store (.statement .forTo) with
  | error fault =>
    obtain ⟨_, fuel, reached⟩ := ends
    simp [exec, started] at reached
  | ok l =>
    refine (Opens.forTo started).establishes inv (fun store => inv store ∧ ∃ current bound,
      store.get? counter = some current ∧ high.eval store = .ok (.int bound) ∧ bound < current)
      (start l (Expr.evalInt_eq_ok_iff.mp started)) ?_ ?_ ends
    · intro store holds stopped
      obtain ⟨current, bound, counted, bounded, above⟩ := LoopControl.enter_forTo_ok.mp stopped
      refine ⟨holds, current, bound, Store.lookup_eq_ok_iff.mp counted,
        Expr.evalInt_eq_ok_iff.mp bounded, ?_⟩
      exact Int64.not_le.mp (of_decide_eq_false above)
    · intro store console final rest holds ran
      obtain ⟨holds, entered⟩ := holds
      obtain ⟨current, bound, counted, bounded, within⟩ := LoopControl.enter_forTo_ok.mp entered
      have steps := kept store console final rest ⟨holds, current, bound,
        Store.lookup_eq_ok_iff.mp counted, Expr.evalInt_eq_ok_iff.mp bounded,
        of_decide_eq_true within⟩ ran
      constructor
      · intro next left
        obtain ⟨last, increased, recounted, added, rfl, _⟩ := LoopControl.leave_forTo_ok.mp left
        exact steps last increased (Store.lookup_eq_ok_iff.mp recounted)
          (ArithOp.add_one_eq_ok_iff.mp added)
      · intro next left
        obtain ⟨_, _, _, _, _, contradiction⟩ := LoopControl.leave_forTo_ok.mp left
        cases contradiction

/-- The invariant rules. If the body keeps a property of stores from one round to the next, a loop
that is done ends with it, and with the answer that stops the loop: a `while` with its condition
false, a `repeat` with it true and a `do` with it false, after at least one body, and a counting
loop with its counter above its bound. For a counting loop a round is the body together with the
step of the counter. -/
theorem loops_keep_invariant (settings : Settings) (inv : Store → Prop) (body : Stmt) :
    (∀ cond : Expr,
      body.Establishes settings (fun store => inv store ∧ cond.eval store = .ok (.bool true)) inv →
      (Stmt.whileDo cond body).Establishes settings inv
        fun store => inv store ∧ cond.eval store = .ok (.bool false)) ∧
    (∀ (cond : Expr) (start : Store),
      body.Establishes settings
        (fun store => store = start ∨ inv store ∧ cond.eval store = .ok (.bool false)) inv →
      ∀ console final rest,
        (Stmt.repeatUntil body cond).EndsIn settings start console (.done final rest) →
        (Stmt.repeatUntil body cond).HasRun settings body start console ∧
        inv final ∧ cond.eval final = .ok (.bool true)) ∧
    (∀ (cond : Expr) (start : Store),
      body.Establishes settings
        (fun store => store = start ∨ inv store ∧ cond.eval store = .ok (.bool true)) inv →
      ∀ console final rest,
        (Stmt.doWhile body cond).EndsIn settings start console (.done final rest) →
        (Stmt.doWhile body cond).HasRun settings body start console ∧
        inv final ∧ cond.eval final = .ok (.bool false)) ∧
    ∀ (counter : Name) (low high : Expr) (start : Store),
      (∀ l, low.eval start = .ok (.int l) → inv (start.bind counter l)) →
      body.Establishes settings
        (fun store => inv store ∧ ∃ current bound, store.get? counter = some current ∧
          high.eval store = .ok (.int bound) ∧ current ≤ bound)
        (fun store => ∀ current next, store.get? counter = some current →
          next.toInt = current.toInt + 1 → inv (store.bind counter next)) →
      ∀ console final rest,
        (Stmt.forTo counter low high body).EndsIn settings start console (.done final rest) →
        inv final ∧ ∃ current bound, final.get? counter = some current ∧
          high.eval final = .ok (.int bound) ∧ bound < current := by
  refine ⟨fun cond kept => whileDo_establishes kept, ?_, ?_, ?_⟩
  · intro cond start kept console final rest ends
    have enters (store : Store) : (LoopControl.repeatUntil cond).enter store = .ok true := rfl
    refine ⟨Opens.repeatUntil.hasRun enters ends, ?_⟩
    refine Opens.repeatUntil.establishes_after (fun again => !again) enters ?_ kept ends
    intro store next again left
    obtain ⟨same, answered⟩ := LoopControl.leave_repeatUntil_ok.mp left
    exact ⟨same, Expr.evalBool_eq_ok_iff.mp answered⟩
  · intro cond start kept console final rest ends
    have enters (store : Store) : (LoopControl.doWhile cond).enter store = .ok true := rfl
    refine ⟨Opens.doWhile.hasRun enters ends, ?_⟩
    refine Opens.doWhile.establishes_after (fun again => again) enters ?_ kept ends
    intro store next again left
    obtain ⟨same, answered⟩ := LoopControl.leave_doWhile_ok.mp left
    exact ⟨same, Expr.evalBool_eq_ok_iff.mp answered⟩
  · intro counter low high start begins kept console final rest ends
    exact forTo_establishes begins kept ends

/-- What taking one off a variable does, where it is done. -/
private theorem decrement_done
    (ends : (Stmt.assign ⟨"n"⟩ (.sub (.named "n") (.int 1))).EndsIn settings store console
      (.done final rest)) :
    ∃ k m : Int64, store.get? ⟨"n"⟩ = some k ∧ m.toInt = k.toInt - 1 ∧
      final = store.bind ⟨"n"⟩ m := by
  obtain ⟨_, fuel, reached⟩ := ends
  rw [exec] at reached
  cases evaluated : (Expr.sub (.named "n") (.int 1)).evalInt store (.assignment ⟨"n"⟩) with
  | error fault => simp [evaluated] at reached
  | ok m =>
    simp only [evaluated, Outcome.attempt_ok, Outcome.done.injEq] at reached
    cases Expr.denotes_of_ok (Expr.evalInt_eq_ok_iff.mp evaluated) with
    | arith first second gives =>
      cases first with
      | var bound =>
        cases second
        exact ⟨_, m, bound, (ArithOp.gives_iff.mp gives).2, reached.1.symm⟩

/-- Positive before one is taken off, not negative after. -/
private theorem decrement_keeps (positive : ∀ store k, before store →
      store.get? ⟨"n"⟩ = some k → 0 < k.toInt) :
    (Stmt.assign ⟨"n"⟩ (.sub (.named "n") (.int 1))).Establishes settings before
      fun store => ∃ k, store.get? ⟨"n"⟩ = some k ∧ 0 ≤ k.toInt := by
  intro store console final rest holds ends
  obtain ⟨k, m, bound, less, rfl⟩ := decrement_done ends
  have above := positive store k holds bound
  exact ⟨m, by simp, by omega⟩

private theorem compared_with_zero (op : CompareOp) {k : Int64}
    (bound : store.get? ⟨"n"⟩ = some k) {b : Bool}
    (answer : (Expr.binary (.compare op) (.named "n") (.int 0)).eval store = .ok (.bool b)) :
    op.holdsExactly k.toInt 0 = b := by
  have read := Expr.eval_var_of_ok (Store.lookup_eq_ok_iff.mpr bound)
  have zero : (Expr.int 0).eval store = .ok (.int 0) := rfl
  have found : (Expr.binary (.compare op) (.named "n") (.int 0)).eval store =
      .ok (.bool (op.holds k 0)) := Expr.eval_binary_of_ok read zero
  rw [found, CompareOp.holds_eq_exactly] at answer
  cases answer
  rfl

/-- A variable is counted down by each form of loop. The first three keep it from falling below
zero, and the last keeps its sum with the counter. -/
theorem loops_keep_invariant_countdown :
    ∃ (body : Stmt) (start : Store) (console : Console) (inv sum : Store → Prop),
      body = .assign ⟨"n"⟩ (.sub (.named "n") (.int 1)) ∧ start = .ofEntries [(⟨"n"⟩, 2)] ∧
      inv = (fun store => ∃ k, store.get? ⟨"n"⟩ = some k ∧ 0 ≤ k.toInt) ∧
      sum = (fun store => ∃ k i, store.get? ⟨"n"⟩ = some k ∧ store.get? ⟨"i"⟩ = some i ∧
        k.toInt + i.toInt = 3) ∧
      (∃ final rest, (Stmt.whileDo (.gt (.named "n") (.int 0)) body).EndsIn {} start console
          (.done final rest) ∧
        inv final ∧ (Expr.gt (.named "n") (.int 0)).eval final = .ok (.bool false)) ∧
      (∃ final rest, (Stmt.repeatUntil body (.le (.named "n") (.int 0))).EndsIn {} start console
          (.done final rest) ∧
        (Stmt.repeatUntil body (.le (.named "n") (.int 0))).HasRun {} body start console ∧
        inv final ∧ (Expr.le (.named "n") (.int 0)).eval final = .ok (.bool true)) ∧
      (∃ final rest, (Stmt.doWhile body (.gt (.named "n") (.int 0))).EndsIn {} start console
          (.done final rest) ∧
        (Stmt.doWhile body (.gt (.named "n") (.int 0))).HasRun {} body start console ∧
        inv final ∧ (Expr.gt (.named "n") (.int 0)).eval final = .ok (.bool false)) ∧
      ∃ final rest, (Stmt.forTo ⟨"i"⟩ (.int 1) (.int 2) body).EndsIn {} start console
          (.done final rest) ∧
        sum final ∧ ∃ current bound, final.get? ⟨"i"⟩ = some current ∧
          (Expr.int 2).eval final = .ok (.int bound) ∧ bound < current := by
  have atStart (k : Int64) (bound : (Store.ofEntries [(⟨"n"⟩, 2)]).get? ⟨"n"⟩ = some k) :
      0 < k.toInt := by
    cases bound
    decide
  refine ⟨_, _, { source := .script [], sink := .buffer }, _, _, rfl, rfl, rfl, rfl, ?_, ?_, ?_, ?_⟩
  · have ends : (Stmt.whileDo (.gt (.named "n") (.int 0))
          (.assign ⟨"n"⟩ (.sub (.named "n") (.int 1)))).EndsIn {} (.ofEntries [(⟨"n"⟩, 2)])
        { source := .script [], sink := .buffer } (.done (.ofEntries [(⟨"n"⟩, 0)])
          { source := .script [], sink := .buffer,
            events := #[.assigned ⟨"n"⟩ 1, .assigned ⟨"n"⟩ 0, .loopFinished .whileDo 2] }) :=
      ⟨nofun, 3, by decide +kernel⟩
    refine ⟨_, _, ends, (loops_keep_invariant {} _ _).1 _ (decrement_keeps ?_) _ _ _ _ ?_ ends⟩
    · rintro store k ⟨_, holds⟩ bound
      exact of_decide_eq_true (compared_with_zero .gt bound holds)
    · exact ⟨2, rfl, by decide⟩
  · have ends : (Stmt.repeatUntil (.assign ⟨"n"⟩ (.sub (.named "n") (.int 1)))
          (.le (.named "n") (.int 0))).EndsIn {} (.ofEntries [(⟨"n"⟩, 2)])
        { source := .script [], sink := .buffer } (.done (.ofEntries [(⟨"n"⟩, 0)])
          { source := .script [], sink := .buffer,
            events := #[.assigned ⟨"n"⟩ 1, .assigned ⟨"n"⟩ 0, .loopFinished .repeatUntil 2] }) :=
      ⟨nofun, 3, by decide +kernel⟩
    refine ⟨_, _, ends, (loops_keep_invariant {} _ _).2.1 _ _ (decrement_keeps ?_) _ _ _ ends⟩
    rintro store k (rfl | ⟨_, fails⟩) bound
    · exact atStart k bound
    · exact Int.not_le.mp (of_decide_eq_false (compared_with_zero .le bound fails))
  · have ends : (Stmt.doWhile (.assign ⟨"n"⟩ (.sub (.named "n") (.int 1)))
          (.gt (.named "n") (.int 0))).EndsIn {} (.ofEntries [(⟨"n"⟩, 2)])
        { source := .script [], sink := .buffer } (.done (.ofEntries [(⟨"n"⟩, 0)])
          { source := .script [], sink := .buffer,
            events := #[.assigned ⟨"n"⟩ 1, .assigned ⟨"n"⟩ 0, .loopFinished .doWhile 2] }) :=
      ⟨nofun, 3, by decide +kernel⟩
    refine ⟨_, _, ends, (loops_keep_invariant {} _ _).2.2.1 _ _ (decrement_keeps ?_) _ _ _ ends⟩
    rintro store k (rfl | ⟨_, holds⟩) bound
    · exact atStart k bound
    · exact of_decide_eq_true (compared_with_zero .gt bound holds)
  · have ends : (Stmt.forTo ⟨"i"⟩ (.int 1) (.int 2)
          (.assign ⟨"n"⟩ (.sub (.named "n") (.int 1)))).EndsIn {} (.ofEntries [(⟨"n"⟩, 2)])
        { source := .script [], sink := .buffer } (.done (.ofEntries [(⟨"n"⟩, 0), (⟨"i"⟩, 3)])
          { source := .script [], sink := .buffer,
            events := #[.assigned ⟨"n"⟩ 1, .assigned ⟨"n"⟩ 0, .loopFinished .forTo 2] }) :=
      ⟨nofun, 3, by decide +kernel⟩
    have rule := loops_keep_invariant {} (fun store => ∃ k i, store.get? ⟨"n"⟩ = some k ∧
      store.get? ⟨"i"⟩ = some i ∧ k.toInt + i.toInt = 3)
    refine ⟨_, _, ends, (rule _).2.2.2 _ _ _ _ ?_ ?_ _ _ _ ends⟩
    · rintro l found
      cases found
      exact ⟨2, 1, rfl, rfl, rfl⟩
    · rintro store console final rest ⟨holds, _⟩ ends current next counted increased
      obtain ⟨k, m, bound, less, rfl⟩ := decrement_done ends
      obtain ⟨k', i, bound', counted', total⟩ := holds
      rw [bound] at bound'
      cases bound'
      simp [counted'] at counted
      subst counted
      exact ⟨m, next, by simp, by simp, by omega⟩

end Stmt

end ImpLang
