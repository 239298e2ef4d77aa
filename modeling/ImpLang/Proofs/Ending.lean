import ImpLang.Proofs.Lifting

/-!
# Runs that end

A run ends in an outcome if some fuel brings it there, and diverges if none does. `exec_mono` makes
the outcome unique. For loops there is one lemma for each way to go on or to end, none of which
mentions fuel. Where the console is a matter of its own, an outcome is split into an `Ending` and
the console it is on. A program ends as its body does, with one more event and, after a failure, a
note. Two runs that have related outcomes with any fuel both diverge or end together
(`end_together`).
-/

namespace ImpLang

/-- How an execution ends, apart from its console. -/
inductive Ending where
  | done (store : Store)
  | failed (fault : Fault)
  deriving DecidableEq, Repr

/-- The outcome with an ending and a console. -/
def Ending.on (console : Console) : Ending → Outcome Fault
  | .done store => .done store console
  | .failed fault => .failed fault console

theorem Ending.on_ne_outOfFuel (ending : Ending) (console : Console) :
    ending.on console ≠ .outOfFuel := by
  cases ending <;> exact nofun

theorem Ending.on_inj {ending ending' : Ending} {console console' : Console}
    (same : ending.on console = ending'.on console') : ending = ending' ∧ console = console' := by
  cases ending <;> cases ending' <;> simp_all [Ending.on]

namespace Stmt

/-- Some fuel is enough for a statement to end in this outcome. -/
def EndsIn (settings : Settings) (s : Stmt) (store : Store) (console : Console)
    (outcome : Outcome Fault) : Prop :=
  outcome ≠ .outOfFuel ∧ ∃ fuel, s.exec settings fuel store console = outcome

/-- No fuel is enough for a statement to end. -/
def Diverges (settings : Settings) (s : Stmt) (store : Store) (console : Console) : Prop :=
  ∀ fuel, s.exec settings fuel store console = .outOfFuel

variable {settings : Settings} {s : Stmt} {store : Store} {console : Console}

theorem EndsIn.stays {outcome : Outcome Fault} (ends : s.EndsIn settings store console outcome) :
    ∃ fuel, ∀ more, fuel ≤ more → s.exec settings more store console = outcome := by
  obtain ⟨ended, fuel, rfl⟩ := ends
  exact ⟨fuel, fun more enough => exec_mono settings enough s store console ended⟩

theorem EndsIn.unique {outcome outcome' : Outcome Fault}
    (ends : s.EndsIn settings store console outcome)
    (ends' : s.EndsIn settings store console outcome') : outcome = outcome' := by
  obtain ⟨fuel, stays⟩ := ends.stays
  obtain ⟨fuel', stays'⟩ := ends'.stays
  rw [← stays (max fuel fuel') (Nat.le_max_left _ _), stays' _ (Nat.le_max_right _ _)]

theorem not_diverges_iff :
    ¬ s.Diverges settings store console ↔ ∃ outcome, s.EndsIn settings store console outcome := by
  constructor
  · intro ends
    obtain ⟨fuel, ended⟩ := Classical.not_forall.mp ends
    exact ⟨_, ended, fuel, rfl⟩
  · rintro ⟨outcome, ended, fuel, rfl⟩ diverges
    exact ended (diverges fuel)

theorem EndsIn.seq {first rest : Stmt} {middle : Store} {between : Console}
    {outcome : Outcome Fault} (ran : first.EndsIn settings store console (.done middle between))
    (goesOn : rest.EndsIn settings middle between outcome) :
    (Stmt.seq first rest).EndsIn settings store console outcome := by
  obtain ⟨fuel, stays⟩ := ran.stays
  obtain ⟨fuel', stays'⟩ := goesOn.stays
  refine ⟨goesOn.1, max fuel fuel', ?_⟩
  rw [exec, stays _ (Nat.le_max_left _ _), Outcome.andThen_done, stays' _ (Nat.le_max_right _ _)]

theorem EndsIn.seqFails {first : Stmt} {fault : Fault} {after : Console}
    (failed : first.EndsIn settings store console (.failed fault after)) (rest : Stmt) :
    (Stmt.seq first rest).EndsIn settings store console (.failed fault after) := by
  obtain ⟨_, fuel, reached⟩ := failed
  exact ⟨nofun, fuel, by rw [exec, reached, Outcome.andThen_failed]⟩

theorem EndsIn.assign {value : Expr} {n : Int64} (found : value.eval store = .ok (.int n))
    (target : Name) :
    (Stmt.assign target value).EndsIn settings store console
      (.done (store.bind target n) (console.record (.assigned target n))) :=
  ⟨nofun, 0, by rw [exec, Expr.evalInt_eq_ok_iff.mpr found, Outcome.attempt_ok]⟩

theorem EndsIn.assignFails {target : Name} {value : Expr} {fault : Fault}
    (failed : value.evalInt store (.assignment target) = .error fault) :
    (Stmt.assign target value).EndsIn settings store console (.failed fault console) :=
  ⟨nofun, 0, by rw [exec, failed, Outcome.attempt_error]⟩

theorem EndsIn.writeNum {value : Expr} {n : Int64} (found : value.eval store = .ok (.int n)) :
    (Stmt.writeNum value).EndsIn settings store console
      (.done store (console.print (.written (Numeral.render n.toInt)))) :=
  ⟨nofun, 0, by rw [exec, Expr.evalInt_eq_ok_iff.mpr found, Outcome.attempt_ok]⟩

/-- A sequence fails as its first part does, or ends as its rest does after it. -/
theorem endsIn_seq_iff {first rest : Stmt} {outcome : Outcome Fault} :
    (Stmt.seq first rest).EndsIn settings store console outcome ↔
      (∃ fault after, first.EndsIn settings store console (.failed fault after) ∧
        outcome = .failed fault after) ∨
      ∃ middle between, first.EndsIn settings store console (.done middle between) ∧
        rest.EndsIn settings middle between outcome := by
  constructor
  · rintro ⟨ended, fuel, rfl⟩
    rw [exec] at ended ⊢
    cases ran : first.exec settings fuel store console with
    | outOfFuel => simp [ran] at ended
    | failed fault after =>
      exact Or.inl ⟨fault, after, ⟨Outcome.failed_ne_outOfFuel fault after, fuel, ran⟩, rfl⟩
    | done middle between =>
      rw [ran, Outcome.andThen_done] at ended
      refine Or.inr ⟨middle, between, ?_, ended, fuel, rfl⟩
      exact ⟨Outcome.done_ne_outOfFuel middle between, fuel, ran⟩
  · rintro (⟨fault, after, ⟨_, fuel, failed⟩, rfl⟩ | ⟨middle, between, ran, goesOn⟩)
    · refine ⟨Outcome.failed_ne_outOfFuel fault after, fuel, ?_⟩
      rw [exec, failed, Outcome.andThen_failed]
    · exact ran.seq goesOn

/-- Two runs whose outcomes are related whatever fuel they are given both diverge, or end together
in related outcomes. -/
theorem end_together {settings' : Settings} {s' : Stmt} {store' : Store} {console' : Console}
    {onDone : Store → Console → Store → Console → Prop}
    {onFailed : Fault → Console → Fault → Console → Prop}
    (related : ∀ fuel, (s.exec settings fuel store console).Rel onDone onFailed
      (s'.exec settings' fuel store' console')) :
    (s.Diverges settings store console ∧ s'.Diverges settings' store' console') ∨
    (∃ final after final' after', s.EndsIn settings store console (.done final after) ∧
      s'.EndsIn settings' store' console' (.done final' after') ∧
      onDone final after final' after') ∨
    ∃ fault after fault' after', s.EndsIn settings store console (.failed fault after) ∧
      s'.EndsIn settings' store' console' (.failed fault' after') ∧
      onFailed fault after fault' after' := by
  by_cases starves : ∀ fuel, s.exec settings fuel store console = .outOfFuel
  · refine Or.inl ⟨starves, fun fuel => ?_⟩
    have both := related fuel
    rw [starves fuel] at both
    generalize s'.exec settings' fuel store' console' = outcome' at both ⊢
    cases both
    rfl
  · obtain ⟨fuel, ended⟩ := Classical.not_forall.mp starves
    have both := related fuel
    generalize reached : s.exec settings fuel store console = outcome at both ended
    generalize reached' : s'.exec settings' fuel store' console' = outcome' at both
    cases both with
    | done same =>
      exact Or.inr (Or.inl ⟨_, _, _, _, ⟨nofun, fuel, reached⟩, ⟨nofun, fuel, reached'⟩, same⟩)
    | failed same =>
      exact Or.inr (Or.inr ⟨_, _, _, _, ⟨nofun, fuel, reached⟩, ⟨nofun, fuel, reached'⟩, same⟩)
    | outOfFuel => exact absurd rfl ended

end Stmt

namespace LoopControl

/-- Some fuel is enough for a loop to end in this outcome, after so many rounds before. -/
def EndsIn (control : LoopControl) (settings : Settings) (body : Stmt) (rounds : UInt64)
    (store : Store) (console : Console) (outcome : Outcome Fault) : Prop :=
  outcome ≠ .outOfFuel ∧ ∃ fuel, control.iterate settings.maxIterations
    (fun store console => body.exec settings fuel store console) fuel rounds store console = outcome

variable {control : LoopControl} {settings : Settings} {body : Stmt} {rounds counted : UInt64}
  {store after next : Store} {console between : Console}

theorem beginRound_unlimited (unlimited : settings.maxIterations = none) (rounds : UInt64) :
    beginRound settings.maxIterations rounds = .ok (nextRound rounds) := by
  rw [unlimited]
  rfl

theorem EndsIn.enterFails {fault : Fault} (failed : control.enter store = .error fault) :
    control.EndsIn settings body rounds store console (.failed fault console) := by
  refine ⟨nofun, 1, ?_⟩
  rw [iterate_succ, failed, Outcome.attempt_error]

theorem EndsIn.stop (stops : control.enter store = .ok false) :
    control.EndsIn settings body rounds store console
      (.done store (console.record (.loopFinished control.kind rounds))) := by
  refine ⟨nofun, 1, ?_⟩
  rw [iterate_succ, stops, Outcome.attempt_ok]
  rfl

theorem EndsIn.bodyFails {fault : Fault} (entered : control.enter store = .ok true)
    (begun : beginRound settings.maxIterations rounds = .ok counted)
    (failed : body.EndsIn settings store console (.failed fault between)) :
    control.EndsIn settings body rounds store console (.failed fault between) := by
  obtain ⟨fuel, stays⟩ := failed.stays
  refine ⟨nofun, fuel + 1, ?_⟩
  simp only [iterate_succ, entered, begun, Outcome.attempt_ok, if_true, round,
    stays _ (Nat.le_succ fuel), Outcome.andThen_failed]

theorem EndsIn.leaveFails {fault : Fault} (entered : control.enter store = .ok true)
    (begun : beginRound settings.maxIterations rounds = .ok counted)
    (ran : body.EndsIn settings store console (.done after between))
    (failed : control.leave after = .error fault) :
    control.EndsIn settings body rounds store console (.failed fault between) := by
  obtain ⟨fuel, stays⟩ := ran.stays
  refine ⟨nofun, fuel + 1, ?_⟩
  simp only [iterate_succ, entered, begun, Outcome.attempt_ok, if_true, round,
    stays _ (Nat.le_succ fuel), Outcome.andThen_done, failed, Outcome.attempt_error]

theorem EndsIn.last (entered : control.enter store = .ok true)
    (begun : beginRound settings.maxIterations rounds = .ok counted)
    (ran : body.EndsIn settings store console (.done after between))
    (left : control.leave after = .ok (next, false)) :
    control.EndsIn settings body rounds store console
      (.done next (between.record (.loopFinished control.kind counted))) := by
  obtain ⟨fuel, stays⟩ := ran.stays
  refine ⟨nofun, fuel + 1, ?_⟩
  simp only [iterate_succ, entered, begun, Outcome.attempt_ok, if_true, round,
    stays _ (Nat.le_succ fuel), Outcome.andThen_done, left, Bool.false_eq_true, if_false]

theorem EndsIn.again {outcome : Outcome Fault} (entered : control.enter store = .ok true)
    (begun : beginRound settings.maxIterations rounds = .ok counted)
    (ran : body.EndsIn settings store console (.done after between))
    (left : control.leave after = .ok (next, true))
    (goesOn : control.EndsIn settings body counted next between outcome) :
    control.EndsIn settings body rounds store console outcome := by
  obtain ⟨fuel, stays⟩ := ran.stays
  obtain ⟨ended, fuel', rfl⟩ := goesOn
  refine ⟨ended, max fuel fuel' + 1, ?_⟩
  simp only [iterate_succ, entered, begun, Outcome.attempt_ok, if_true, round,
    stays _ (Nat.le_succ_of_le (Nat.le_max_left fuel fuel')), Outcome.andThen_done, left]
  -- The loop has lost one unit of fuel and the body has not, so both bounds grow.
  refine iterate_mono control _ ?_ (Nat.le_max_right fuel fuel') counted next between ended
  intro store console bodyEnded
  exact Stmt.exec_mono settings (by omega) body store console bodyEnded

end LoopControl

namespace Stmt

variable {settings : Settings} {body : Stmt} {store : Store} {console : Console}
  {outcome : Outcome Fault}

theorem EndsIn.whileDo {cond : Expr}
    (loop : (LoopControl.whileDo cond).EndsIn settings body 0 store console outcome) :
    (Stmt.whileDo cond body).EndsIn settings store console outcome :=
  loop

theorem EndsIn.forTo {counter : Name} {low high : Expr} {start : Int64}
    (started : low.eval store = .ok (.int start))
    (loop : (LoopControl.forTo counter high).EndsIn settings body 0 (store.bind counter start)
      console outcome) :
    (Stmt.forTo counter low high body).EndsIn settings store console outcome := by
  obtain ⟨ended, fuel, reached⟩ := loop
  exact ⟨ended, fuel, by rw [exec, Expr.evalInt_eq_ok_iff.mpr started, Outcome.attempt_ok, reached]⟩

end Stmt

namespace Program

/-- Some fuel is enough for a program to end in this outcome. -/
def EndsIn (settings : Settings) (program : Program) (console : Console)
    (outcome : Outcome Report) : Prop :=
  outcome ≠ .outOfFuel ∧ ∃ fuel, program.run settings fuel console = outcome

/-- No fuel is enough for a program to end. -/
def Diverges (settings : Settings) (program : Program) (console : Console) : Prop :=
  ∀ fuel, program.run settings fuel console = .outOfFuel

/-- The body of a program runs to this outcome, from the declared variables at zero. -/
def BodyEndsIn (settings : Settings) (program : Program) (console : Console)
    (outcome : Outcome Fault) : Prop :=
  program.body.EndsIn settings (.initial program.vars)
    (console.record (.started program.name program.vars.length)) outcome

variable {settings : Settings} {program : Program} {console after : Console} {store : Store}
  {report : Report}

/-- A program that has ended ends in the same way with more fuel. -/
theorem run_mono {fuel more : Nat} (enough : fuel ≤ more)
    (ended : program.run settings fuel console ≠ .outOfFuel) :
    program.run settings more console = program.run settings fuel console := by
  dsimp only [run] at ended ⊢
  rw [Stmt.exec_mono settings enough program.body]
  intro starved
  simp [starved] at ended

theorem EndsIn.unique {outcome outcome' : Outcome Report}
    (ends : program.EndsIn settings console outcome)
    (ends' : program.EndsIn settings console outcome') : outcome = outcome' := by
  obtain ⟨ended, fuel, rfl⟩ := ends
  obtain ⟨ended', fuel', rfl⟩ := ends'
  rw [← run_mono (Nat.le_max_left fuel fuel') ended, run_mono (Nat.le_max_right fuel fuel') ended']

/-- With enough fuel the run is this one, and with less it may be cut short. -/
theorem EndsIn.enough {outcome : Outcome Report} (ends : program.EndsIn settings console outcome) :
    ∃ enough, ∀ fuel, program.run settings fuel console = outcome ∨
      fuel < enough ∧ program.run settings fuel console = .outOfFuel := by
  obtain ⟨ended, enough, reached⟩ := ends
  refine ⟨enough, fun fuel => ?_⟩
  by_cases starved : program.run settings fuel console = .outOfFuel
  · by_cases less : fuel < enough
    · exact Or.inr ⟨less, starved⟩
    · have same := run_mono (Nat.le_of_not_lt less) (reached ▸ ended)
      exact absurd (reached.symm.trans (same.symm.trans starved)) ended
  · have also : program.EndsIn settings console (program.run settings fuel console) :=
      ⟨starved, fuel, rfl⟩
    exact Or.inl (also.unique ⟨ended, enough, reached⟩)

theorem EndsIn.done (ends : program.EndsIn settings console (.done store after)) :
    ∃ between, program.BodyEndsIn settings console (.done store between) ∧
      after = between.record (.finished store.size) := by
  obtain ⟨_, fuel, reached⟩ := ends
  dsimp only [run] at reached
  split at reached
  next final between ran =>
    cases reached
    exact ⟨between, ⟨nofun, fuel, ran⟩, rfl⟩
  next => cases reached
  next => cases reached

theorem EndsIn.failed (ends : program.EndsIn settings console (.failed report after)) :
    ∃ fault between, program.BodyEndsIn settings console (.failed fault between) ∧
      report = fault.report.withNote program.note ∧ after = between.record (.failed fault) := by
  obtain ⟨_, fuel, reached⟩ := ends
  dsimp only [run] at reached
  split at reached
  next => cases reached
  next fault between ran =>
    cases reached
    exact ⟨fault, between, ⟨nofun, fuel, ran⟩, rfl, rfl⟩
  next => cases reached

theorem BodyEndsIn.done (ends : program.BodyEndsIn settings console (.done store after)) :
    program.EndsIn settings console (.done store (after.record (.finished store.size))) := by
  obtain ⟨_, fuel, reached⟩ := ends
  refine ⟨nofun, fuel, ?_⟩
  dsimp only [run]
  rw [reached]

theorem BodyEndsIn.failed {fault : Fault}
    (ends : program.BodyEndsIn settings console (.failed fault after)) :
    program.EndsIn settings console
      (.failed (fault.report.withNote program.note) (after.record (.failed fault))) := by
  obtain ⟨_, fuel, reached⟩ := ends
  refine ⟨nofun, fuel, ?_⟩
  dsimp only [run]
  rw [reached]

/-- A program diverges if its body does. -/
theorem diverges_of_body (diverges : program.body.Diverges settings (.initial program.vars)
    (console.record (.started program.name program.vars.length))) :
    program.Diverges settings console := by
  intro fuel
  dsimp only [run]
  rw [diverges fuel]

/-- Two programs whose bodies have related outcomes whatever fuel they are given both diverge, or
end together. -/
theorem end_together (program program' : Program) {settings settings' : Settings}
    {console console' : Console} {onDone : Store → Console → Store → Console → Prop}
    {onFailed : Fault → Console → Fault → Console → Prop}
    (related : ∀ fuel, (program.body.exec settings fuel (.initial program.vars)
        (console.record (.started program.name program.vars.length))).Rel onDone onFailed
      (program'.body.exec settings' fuel (.initial program'.vars)
        (console'.record (.started program'.name program'.vars.length)))) :
    (program.Diverges settings console ∧ program'.Diverges settings' console') ∨
    (∃ store between store' between', onDone store between store' between' ∧
      program.EndsIn settings console (.done store (between.record (.finished store.size))) ∧
      program'.EndsIn settings' console'
        (.done store' (between'.record (.finished store'.size)))) ∨
    ∃ fault between fault' between', onFailed fault between fault' between' ∧
      program.EndsIn settings console
        (.failed (fault.report.withNote program.note) (between.record (.failed fault))) ∧
      program'.EndsIn settings' console'
        (.failed (fault'.report.withNote program'.note) (between'.record (.failed fault'))) := by
  rcases Stmt.end_together related with
    ⟨diverges, diverges'⟩ | ⟨store, between, store', between', ends, ends', same⟩ |
    ⟨fault, between, fault', between', ends, ends', same⟩
  · exact Or.inl ⟨diverges_of_body diverges, diverges_of_body diverges'⟩
  · exact Or.inr (Or.inl ⟨store, between, store', between', same, BodyEndsIn.done ends,
      BodyEndsIn.done ends'⟩)
  · exact Or.inr (Or.inr ⟨fault, between, fault', between', same, BodyEndsIn.failed ends,
      BodyEndsIn.failed ends'⟩)

end Program

end ImpLang
