import ImpLang.Proofs.Agreement
import ImpLang.Proofs.Kind

/-!
# Loops that test after their body

Without a limit such a loop agrees with its body followed by the loop that tests before it, and
under every limit the two kinds of loop that test after their body agree with each other.

The same fuel does not take both sides equally far: the loop that tests first gets through one more
body with it. So they are compared one way (`iterate_forth`) and then, with a round more, the other
way (`iterate_back`). A condition that is an integer is one in every store, so no loop gets past the
place where it tests for the first time: there both sides fail, each blaming a place of its own
(`Stmt.BothMisfit`).
-/

namespace ImpLang

namespace LoopControl

/-- One control asks after each round what the other asks before it. -/
structure Postpones (post pre : LoopControl) : Prop where
  enter : ∀ store, post.enter store = .ok true
  leave : ∀ store, post.leave store = (pre.enter store).map fun again => (store, again)
  goesOn : ∀ store, pre.leave store = .ok (store, true)

namespace Postpones

variable {post pre : LoopControl} {body : Store → Console → Outcome Fault}

theorem iterate_post (postpones : post.Postpones pre) (fuel : Nat) (rounds : UInt64) (store : Store)
    (console : Console) :
    post.iterate none body (fuel + 1) rounds store console =
      (body store console).andThen fun store console =>
        .attempt (pre.enter store) console fun again =>
          if again then post.iterate none body fuel (nextRound rounds) store console
          else .done store (console.record (.loopFinished post.kind (nextRound rounds))) := by
  rw [iterate_succ, postpones.enter, Outcome.attempt_ok, if_pos rfl, beginRound, Outcome.attempt_ok,
    round]
  congr 1
  funext after between
  rw [postpones.leave]
  cases pre.enter after <;> rfl

theorem iterate_pre (postpones : post.Postpones pre) (fuel : Nat) (rounds : UInt64) (store : Store)
    (console : Console) :
    pre.iterate none body (fuel + 1) rounds store console =
      .attempt (pre.enter store) console fun begins =>
        if begins then (body store console).andThen fun store console =>
          pre.iterate none body fuel (nextRound rounds) store console
        else .done store (console.record (.loopFinished pre.kind rounds)) := by
  rw [iterate_succ]
  simp only [beginRound, Outcome.attempt_ok, round, postpones.goesOn, if_true]

/-- Where the loop that tests after its body has ended, so has the body with the other loop after
it. -/
theorem iterate_forth (postpones : post.Postpones pre) (fuel : Nat) (rounds rounds' : UInt64)
    (store : Store) (console : Console)
    (ended : post.iterate none body fuel rounds store console ≠ .outOfFuel) :
    (post.iterate none body fuel rounds store console).Agree Eq
      ((body store console).andThen fun store console =>
        pre.iterate none body fuel rounds' store console) := by
  induction fuel generalizing rounds rounds' store console with
  | zero => exact absurd rfl ended
  | succ fuel ih =>
    simp only [postpones.iterate_post, postpones.iterate_pre] at ended ⊢
    cases ran : body store console with
    | outOfFuel => simp [ran] at ended
    | failed fault between => exact .failed ⟨rfl, .refl between⟩
    | done after between =>
      simp only [ran, Outcome.andThen_done] at ended ⊢
      cases asked : pre.enter after with
      | error fault => exact .failed ⟨rfl, .refl between⟩
      | ok again =>
        cases again with
        | false => exact .done ⟨rfl, (Console.Alike.refl between).record _ _⟩
        | true =>
          simp only [asked, Outcome.attempt_ok, if_true] at ended ⊢
          exact ih (nextRound rounds) (nextRound rounds') after between ended

/-- The other way round, with one round more. -/
theorem iterate_back (postpones : post.Postpones pre) (fuel : Nat) (rounds rounds' : UInt64)
    (store : Store) (console : Console)
    (ended : ((body store console).andThen fun store console =>
      pre.iterate none body fuel rounds' store console) ≠ .outOfFuel) :
    post.iterate none body (fuel + 1) rounds store console ≠ .outOfFuel := by
  induction fuel generalizing rounds rounds' store console with
  | zero =>
    rw [postpones.iterate_post]
    cases ran : body store console with
    | outOfFuel | done after between => simp [ran, iterate] at ended
    | failed fault between => exact Outcome.failed_ne_outOfFuel fault between
  | succ fuel ih =>
    rw [postpones.iterate_post]
    simp only [postpones.iterate_pre] at ended
    cases ran : body store console with
    | outOfFuel => simp [ran] at ended
    | failed fault between => exact Outcome.failed_ne_outOfFuel fault between
    | done after between =>
      simp only [ran, Outcome.andThen_done] at ended ⊢
      cases asked : pre.enter after with
      | error fault => exact Outcome.failed_ne_outOfFuel fault between
      | ok again =>
        cases again with
        | false => exact Outcome.done_ne_outOfFuel _ _
        | true =>
          simp only [asked, Outcome.attempt_ok, if_true] at ended ⊢
          exact ih (nextRound rounds) (nextRound rounds') after between ended

end Postpones

theorem beginRound_zero {limit : Option UInt64} (mayRun : limit ≠ some 0) :
    ∃ counted, beginRound limit 0 = .ok counted := by
  refine ⟨nextRound 0, beginRound_eq_ok_iff.mpr ⟨fun most found => ?_, rfl⟩⟩
  have positive : most ≠ 0 := fun zero => mayRun (zero ▸ found)
  exact UInt64.not_lt.mp fun below => positive (UInt64.lt_one_iff.mp below)

/-- A loop whose question after the first round has no answer. -/
theorem iterate_leaveFails {control : LoopControl} {limit : Option UInt64}
    {body : Store → Console → Outcome Fault} {fault : Store → Fault}
    (enter : ∀ store, control.enter store = .ok true)
    (fails : ∀ store, control.leave store = .error (fault store)) (fuel : Nat) (rounds : UInt64)
    (store : Store) (console : Console) :
    control.iterate limit body (fuel + 1) rounds store console =
      .attempt (beginRound limit rounds) console fun _ =>
        (body store console).andThen fun store console => .failed (fault store) console := by
  rw [iterate_succ, enter, Outcome.attempt_ok, if_pos rfl]
  simp only [round, fails, Outcome.attempt_error]

/-! The loops of a condition that is a truth value -/

variable {cond : Expr}

theorem repeatUntil_postpones (isBool : cond.kind = .bool) :
    (repeatUntil cond).Postpones (whileDo (.not cond)) where
  enter _ := rfl
  leave store := by
    simp only [repeatUntil, whileDo,
      Expr.evalBool_not isBool store (.statement .whileDo) (.statement .repeatUntil)]
    cases cond.evalBool store (.statement .repeatUntil) <;> rfl
  goesOn _ := rfl

theorem doWhile_postpones (isBool : cond.kind = .bool) :
    (doWhile cond).Postpones (whileDo cond) where
  enter _ := rfl
  leave store := by
    simp only [doWhile, whileDo,
      Expr.evalBool_site isBool store (.statement .whileDo) (.statement .doWhile)]
    cases cond.evalBool store (.statement .doWhile) <;> rfl
  goesOn _ := rfl

theorem leave_repeatUntil_not (isBool : cond.kind = .bool) (store : Store) :
    (repeatUntil (.not cond)).leave store = (doWhile cond).leave store := by
  simp only [repeatUntil, doWhile,
    Expr.evalBool_not isBool store (.statement .repeatUntil) (.statement .doWhile)]
  cases cond.evalBool store (.statement .doWhile) with
  | error fault => rfl
  | ok again => simp [Except.map, bind, Except.bind]

end LoopControl

namespace Stmt

/-- A statement that is nothing but a loop with this control and body. -/
def Loops (settings : Settings) (loop : Stmt) (control : LoopControl) (body : Stmt) : Prop :=
  ∀ fuel store console, loop.exec settings fuel store console =
    control.iterate settings.maxIterations
      (fun store console => body.exec settings fuel store console) fuel 0 store console

/-- Without a limit, a loop that postpones its test agrees with its body and the other loop. -/
theorem agree_of_postpones {settings : Settings} (unlimited : settings.maxIterations = none)
    {causes : Diagnostic → Diagnostic → Prop} (same : ∀ diagnostic, causes diagnostic diagnostic)
    {loop body : Stmt} {test : Expr} {post : LoopControl} (loops : loop.Loops settings post body)
    (postpones : post.Postpones (.whileDo test)) (store : Store) (console : Console) :
    loop.Agree causes settings (.seq body (.whileDo test body)) store console := by
  refine agree_of_endsIn (fun outcome ends => ?_) fun outcome ends diverges => ?_
  · obtain ⟨ended, fuel, rfl⟩ := ends
    rw [loops, unlimited] at ended ⊢
    have agree := postpones.iterate_forth fuel 0 0 store console ended
    refine ⟨(Stmt.seq body (.whileDo test body)).exec settings fuel store console, ⟨?_, fuel, rfl⟩,
      ?_⟩
    · simp only [exec, unlimited]
      exact mt agree.outOfFuel_iff.mpr ended
    · simp only [exec, unlimited]
      exact agree.weaken fun fault => same fault.diagnostic
  · obtain ⟨ended, fuel, rfl⟩ := ends
    simp only [exec, unlimited] at ended
    have endsToo := postpones.iterate_back fuel 0 0 store console ended
    have starved := diverges (fuel + 1)
    rw [loops, unlimited] at starved
    -- The body has been given less fuel than the loop, and more makes no difference to it.
    have grown := LoopControl.iterate_mono post none
      (fun store console bodyEnded => exec_mono settings (Nat.le_succ fuel) body store console
        bodyEnded) (Nat.le_refl (fuel + 1)) 0 store console endsToo
    exact endsToo (grown.symm.trans starved)

/-- The stores in which a loop tests for the first time if it does so after its body: none if it may
not run at all, or if the body does not come to its end. -/
def FirstTest (settings : Settings) (body : Stmt) (store : Store) (console : Console)
    (middle : Store) : Prop :=
  settings.maxIterations ≠ some 0 ∧
    ∃ after, body.EndsIn settings store console (.done middle after)

/-- What two loops report of a failure, the one blaming the first place and the other the second
exactly if the condition is an integer where it is first tested. -/
inductive PostTestCauses (settings : Settings) (body : Stmt) (cond : Expr) (store : Store)
    (console : Console) (first second : String) : Diagnostic → Diagnostic → Prop
  | kind {middle : Store} {n : Int64} (tested : FirstTest settings body store console middle)
      (isInt : cond.eval middle = .ok (.int n)) :
      PostTestCauses settings body cond store console first second
        (.typeMismatch first "bool" "int") (.typeMismatch second "bool" "int")
  | same (diagnostic : Diagnostic)
      (fits : ∀ middle n, FirstTest settings body store console middle →
        cond.eval middle ≠ .ok (.int n)) :
      PostTestCauses settings body cond store console first second diagnostic diagnostic

/-- If the condition is an integer where it is first tested, both statements end there, on the
console that the body leaves, and blame these two places for it. -/
def BothMisfit (settings : Settings) (body : Stmt) (cond : Expr) (store : Store)
    (console : Console) (loop other : Stmt) (first second : Site) : Prop :=
  ∀ middle n, FirstTest settings body store console middle → cond.eval middle = .ok (.int n) →
    ∃ after, body.EndsIn settings store console (.done middle after) ∧
      loop.EndsIn settings store console (.failed (.mismatch first .bool .int) after) ∧
      other.EndsIn settings store console (.failed (.mismatch second .bool .int) after)

section

variable {settings : Settings} {body : Stmt} {cond : Expr} {store : Store} {console : Console}

/-- A loop that may run and whose first test fails ends there. -/
theorem Loops.endsIn_misfit {loop : Stmt} {post : LoopControl} {middle : Store} {after : Console}
    {fault : Fault} (loops : loop.Loops settings post body)
    (entered : post.enter store = .ok true) (mayRun : settings.maxIterations ≠ some 0)
    (ran : body.EndsIn settings store console (.done middle after))
    (failed : post.leave middle = .error fault) :
    loop.EndsIn settings store console (.failed fault after) := by
  obtain ⟨counted, begun⟩ := LoopControl.beginRound_zero mayRun
  obtain ⟨ended, fuel, reached⟩ := LoopControl.EndsIn.leaveFails entered begun ran failed
  exact ⟨ended, fuel, (loops fuel store console).trans reached⟩

theorem repeatUntil_misfit :
    BothMisfit settings body cond store console (.repeatUntil body cond)
      (.seq body (.whileDo (.not cond) body)) (.statement .repeatUntil) .negation := by
  intro middle n tested isInt
  obtain ⟨mayRun, after, ran⟩ := tested
  have negated : (Expr.not cond).eval middle = .error (.mismatch .negation .bool .int) :=
    Expr.eval_not_of_ok isInt
  refine ⟨after, ran, ?_, ran.seq (.whileDo (.enterFails (Expr.evalBool_of_error negated)))⟩
  exact Loops.endsIn_misfit (fun _ _ _ => rfl) rfl mayRun ran
    (LoopControl.leave_repeatUntil_error.mpr (Expr.evalBool_of_ok isInt))

theorem doWhile_misfit :
    BothMisfit settings body cond store console (.doWhile body cond)
      (.seq body (.whileDo cond body)) (.statement .doWhile) (.statement .whileDo) := by
  intro middle n tested isInt
  obtain ⟨mayRun, after, ran⟩ := tested
  refine ⟨after, ran, ?_, ran.seq (.whileDo (.enterFails (Expr.evalBool_of_ok isInt)))⟩
  exact Loops.endsIn_misfit (fun _ _ _ => rfl) rfl mayRun ran
    (LoopControl.leave_doWhile_error.mpr (Expr.evalBool_of_ok isInt))

theorem doWhile_repeatUntil_misfit :
    BothMisfit settings body cond store console (.doWhile body cond)
      (.repeatUntil body (.not cond)) (.statement .doWhile) .negation := by
  intro middle n tested isInt
  obtain ⟨mayRun, after, ran⟩ := tested
  have negated : (Expr.not cond).eval middle = .error (.mismatch .negation .bool .int) :=
    Expr.eval_not_of_ok isInt
  refine ⟨after, ran, ?_, ?_⟩
  · exact Loops.endsIn_misfit (fun _ _ _ => rfl) rfl mayRun ran
      (LoopControl.leave_doWhile_error.mpr (Expr.evalBool_of_ok isInt))
  · exact Loops.endsIn_misfit (fun _ _ _ => rfl) rfl mayRun ran
      (LoopControl.leave_repeatUntil_error.mpr (Expr.evalBool_of_error negated))

theorem PostTestCauses.of_bool (isBool : cond.kind = .bool) {first second : String}
    (diagnostic : Diagnostic) :
    PostTestCauses settings body cond store console first second diagnostic diagnostic := by
  refine .same diagnostic fun middle n _ isInt => ?_
  have same := Expr.eval_kind isInt
  simp [isBool, Value.kind] at same

/-- With a condition that is an integer, a first round is the last. -/
theorem round_misfit (isInt : cond.kind = .int) (mayRun : settings.maxIterations ≠ some 0)
    (first second : Site) (fuel : Nat) :
    ((body.exec settings fuel store console).andThen fun store console =>
        .failed (cond.misfit store first) console).Agree
      (fun fault fault' => PostTestCauses settings body cond store console first.describe
        second.describe fault.diagnostic fault'.diagnostic)
      ((body.exec settings fuel store console).andThen fun store console =>
        .failed (cond.misfit store second) console) := by
  cases ran : body.exec settings fuel store console with
  | outOfFuel => exact .outOfFuel
  | failed fault after =>
    refine .failed ⟨.same _ ?_, .refl after⟩
    intro middle n tested _
    obtain ⟨_, other, ends⟩ := tested
    have fails : body.EndsIn settings store console (.failed fault after) := ⟨nofun, fuel, ran⟩
    cases ends.unique fails
  | done middle after =>
    have ends : body.EndsIn settings store console (.done middle after) := ⟨nofun, fuel, ran⟩
    simp only [Outcome.andThen_done, Expr.misfit]
    cases found : cond.eval middle with
    | error fault =>
      refine .failed ⟨.same _ ?_, .refl after⟩
      intro middle' n tested isInt
      obtain ⟨_, other, ends'⟩ := tested
      cases ends.unique ends'
      rw [found] at isInt
      cases isInt
    | ok value =>
      obtain ⟨n, rfl⟩ := Expr.eval_int isInt found
      exact .failed ⟨.kind ⟨mayRun, after, ends⟩ found, .refl after⟩

/-- A loop whose first test fails agrees with its body and the other loop, which fails as well. -/
theorem agree_of_misfit (unlimited : settings.maxIterations = none) (isInt : cond.kind = .int)
    {loop : Stmt} {test : Expr} {post : LoopControl} (loops : loop.Loops settings post body)
    (first second : Site) (enter : ∀ store, post.enter store = .ok true)
    (leave : ∀ store, post.leave store = .error (cond.misfit store first))
    (tested : ∀ store,
      test.evalBool store (.statement .whileDo) = .error (cond.misfit store second)) :
    loop.Agree (PostTestCauses settings body cond store console first.describe second.describe)
      settings (.seq body (.whileDo test body)) store console := by
  refine agree_of_exec fun fuel => ?_
  have mayRun : settings.maxIterations ≠ some 0 := by simp [unlimited]
  have fails (store : Store) (console : Console) :
      (Stmt.whileDo test body).exec settings (fuel + 1) store console =
        .failed (cond.misfit store second) console := by
    rw [exec, LoopControl.iterate_succ]
    simp only [LoopControl.whileDo, tested, Outcome.attempt_error]
  obtain ⟨counted, begun⟩ := LoopControl.beginRound_zero mayRun
  rw [loops, LoopControl.iterate_leaveFails enter leave, begun, Outcome.attempt_ok, exec]
  simp only [fails]
  exact round_misfit isInt mayRun first second (fuel + 1)

/-- With a condition that is a truth value, the two loops that test after their body do the same. -/
theorem doWhile_agree_bool (isBool : cond.kind = .bool) {first second : String} :
    (Stmt.doWhile body cond).Agree
      (PostTestCauses settings body cond store console first second) settings
      (.repeatUntil body (.not cond)) store console := by
  refine agree_of_exec fun fuel => ?_
  have agree : ((Stmt.doWhile body cond).exec settings (fuel + 1) store console).Agree Eq
      ((Stmt.repeatUntil body (.not cond)).exec settings (fuel + 1) store console) := by
    rw [exec, exec]
    refine LoopControl.iterate_alike Eq ?_ ?_ (LoopControl.beginRound_alike _) ?_ (fuel + 1) rfl
      store (.refl console)
    · intro store
      rfl
    · intro store
      exact (LoopControl.leave_repeatUntil_not isBool store).symm
    · intro store console console' alike
      exact body.exec_alike settings (fuel + 1) store alike
  exact agree.weaken fun fault => .of_bool isBool fault.diagnostic

theorem doWhile_agree_misfit (isInt : cond.kind = .int) :
    (Stmt.doWhile body cond).Agree
      (PostTestCauses settings body cond store console (Site.statement .doWhile).describe
        Site.negation.describe)
      settings (.repeatUntil body (.not cond)) store console := by
  refine agree_of_exec fun fuel => ?_
  have leave (store : Store) : (LoopControl.doWhile cond).leave store =
      .error (cond.misfit store (.statement .doWhile)) :=
    LoopControl.leave_doWhile_error.mpr (Expr.evalBool_int isInt store _)
  have leave' (store : Store) : (LoopControl.repeatUntil (.not cond)).leave store =
      .error (cond.misfit store .negation) :=
    LoopControl.leave_repeatUntil_error.mpr (Expr.evalBool_not_int isInt store _)
  rw [exec, exec, LoopControl.iterate_leaveFails (fun _ => rfl) leave,
    LoopControl.iterate_leaveFails (fun _ => rfl) leave']
  by_cases mayRun : settings.maxIterations = some 0
  · rw [mayRun]
    refine .failed ⟨.same _ ?_, .refl console⟩
    intro middle n tested
    exact absurd mayRun tested.1
  · obtain ⟨counted, begun⟩ := LoopControl.beginRound_zero mayRun
    rw [begun]
    exact round_misfit isInt mayRun _ _ (fuel + 1)

end

/-- Loops that test after their body agree with what they stand for: without a limit with their body
and a loop that tests before it, and under every limit with each other. If the condition is an
integer, both sides fail where they first test it and differ in the place they blame. -/
theorem postTest_agree (prompt : String) (body : Stmt) (cond : Expr) (store : Store)
    (console : Console) :
    ((Stmt.repeatUntil body cond).Agree
        (PostTestCauses { maxIterations := none, prompt := prompt } body cond store console
          "repeat-until condition" "operator `not`")
        { maxIterations := none, prompt := prompt }
        (.seq body (.whileDo (.not cond) body)) store console ∧
      BothMisfit { maxIterations := none, prompt := prompt } body cond store console
        (.repeatUntil body cond) (.seq body (.whileDo (.not cond) body))
        (.statement .repeatUntil) .negation) ∧
    ((Stmt.doWhile body cond).Agree
        (PostTestCauses { maxIterations := none, prompt := prompt } body cond store console
          "do-while condition" "while condition")
        { maxIterations := none, prompt := prompt }
        (.seq body (.whileDo cond body)) store console ∧
      BothMisfit { maxIterations := none, prompt := prompt } body cond store console
        (.doWhile body cond) (.seq body (.whileDo cond body))
        (.statement .doWhile) (.statement .whileDo)) ∧
    ∀ limit, (Stmt.doWhile body cond).Agree
        (PostTestCauses { maxIterations := limit, prompt := prompt } body cond store console
          "do-while condition" "operator `not`")
        { maxIterations := limit, prompt := prompt }
        (.repeatUntil body (.not cond)) store console ∧
      BothMisfit { maxIterations := limit, prompt := prompt } body cond store console
        (.doWhile body cond) (.repeatUntil body (.not cond)) (.statement .doWhile) .negation := by
  cases isKind : cond.kind with
  | bool =>
    refine ⟨⟨?_, repeatUntil_misfit⟩, ⟨?_, doWhile_misfit⟩,
      fun limit => ⟨?_, doWhile_repeatUntil_misfit⟩⟩
    · exact agree_of_postpones rfl (.of_bool isKind) (fun _ _ _ => rfl)
        (LoopControl.repeatUntil_postpones isKind) store console
    · exact agree_of_postpones rfl (.of_bool isKind) (fun _ _ _ => rfl)
        (LoopControl.doWhile_postpones isKind) store console
    · exact doWhile_agree_bool isKind
  | int =>
    refine ⟨⟨?_, repeatUntil_misfit⟩, ⟨?_, doWhile_misfit⟩,
      fun limit => ⟨?_, doWhile_repeatUntil_misfit⟩⟩
    · refine agree_of_misfit rfl isKind (fun _ _ _ => rfl) (.statement .repeatUntil) .negation
        (fun _ => rfl) (fun store => ?_) fun store => Expr.evalBool_not_int isKind store _
      exact LoopControl.leave_repeatUntil_error.mpr (Expr.evalBool_int isKind store _)
    · refine agree_of_misfit rfl isKind (fun _ _ _ => rfl) (.statement .doWhile)
        (.statement .whileDo) (fun _ => rfl) (fun store => ?_) fun store =>
        Expr.evalBool_int isKind store _
      exact LoopControl.leave_doWhile_error.mpr (Expr.evalBool_int isKind store _)
    · exact doWhile_agree_misfit isKind

end Stmt

end ImpLang
