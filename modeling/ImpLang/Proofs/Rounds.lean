import ImpLang.Proofs.Course
import ImpLang.Proofs.Failure
import ImpLang.Proofs.Termination

/-!
# Exact limits

Under a limit below the greatest count every course of a loop is `Exact`: the bodies that begin are
those asked for while there is room, the event at the end has their number, and the loop itself
reports an excess just where the room is used up and another body is asked for. An excess in its
outcome is the loop's own if none of its bodies ends in it (`Course.Raises`).
-/

namespace ImpLang

/-- The loop itself reports an excess: its outcome is one, and none of its bodies ends in it. -/
def Course.Raises (ends : Store → Console → Outcome Fault → Prop) (course : Course)
    (limit : UInt64) (last : Console) : Prop :=
  course.outcome = .failed (.budgetExceeded limit) last ∧
    ∀ here now, (here, now) ∈ course.begun → ¬ ends here now (.failed (.budgetExceeded limit) last)

/-- What a limit makes of a course, given how many rounds were counted before it, when the loop
asks for another body and how bodies end. -/
structure Course.Exact (kind : LoopKind) (most : UInt64) (counted : Nat)
    (asks : Nat → Store → Console → Prop) (ends : Store → Console → Outcome Fault → Prop)
    (course : Course) : Prop where
  /-- No more bodies begin than the limit has room for. -/
  within : counted + course.begun.length ≤ most.toNat
  /-- The bodies that begin are those the loop asks for while there is room. -/
  bodies : ∀ k here now,
    course.begun[k]? = some (here, now) ↔ counted + k < most.toNat ∧ asks k here now
  /-- The event at the end has the number of the bodies. -/
  finished : ∀ store console, course.outcome = .done store console →
    ∃ (before : Console) (rounds : UInt64), console = before.record (.loopFinished kind rounds) ∧
      rounds.toNat = counted + course.begun.length
  /-- The loop's own count refuses a round if another is asked for when the room is used up. -/
  refused : course.refused = true ↔ ∃ here now, asks (most.toNat - counted) here now
  /-- The loop itself reports an excess there and then, with the limit, and nowhere else. -/
  raised : ∀ limit last, course.Raises ends limit last ↔
    limit = most ∧ ∃ here, asks (most.toNat - counted) here last

namespace Course.Exact

variable {kind : LoopKind} {most : UInt64} {counted : Nat} {asks : Nat → Store → Console → Prop}
  {ends : Store → Console → Outcome Fault → Prop} {store : Store} {console between : Console}
  {fault : Fault}

/-- Where nothing is asked for, nothing begins and nothing is refused. -/
theorem still {outcome : Outcome Fault} (room : counted ≤ most.toNat)
    (never : ∀ k here now, ¬ asks k here now)
    (finished : ∀ store console, outcome = .done store console →
      ∃ (before : Console) (rounds : UInt64), console = before.record (.loopFinished kind rounds) ∧
        rounds.toNat = counted)
    (noExcess : ∀ limit last, outcome ≠ .failed (.budgetExceeded limit) last) :
    (Course.still outcome).Exact kind most counted asks ends where
  within := room
  bodies k here now := by simp [Course.still, never]
  finished := finished
  refused := by simp [Course.still, never]
  raised limit last := by
    constructor
    · intro raises
      exact absurd raises.1 (noExcess limit last)
    · rintro ⟨_, here, asked⟩
      exact absurd asked (never _ here last)

/-- A control may fail, but what it reports is never an excess. -/
theorem failed (room : counted ≤ most.toNat) (never : ∀ k here now, ¬ asks k here now)
    (ofValues : fault.OfValues) :
    (Course.still (.failed fault console)).Exact kind most counted asks ends := by
  refine .still room never nofun fun limit last excess => ?_
  cases excess
  exact ofValues

theorem done {rounds : UInt64} (room : rounds.toNat ≤ most.toNat)
    (never : ∀ k here now, ¬ asks k here now) :
    (Course.still (.done store (console.record (.loopFinished kind rounds)))).Exact kind most
      rounds.toNat asks ends := by
  refine .still room never (fun final after finished => ?_) nofun
  cases finished
  exact ⟨console, rounds, rfl, rfl⟩

/-- Where the room is used up and a body is asked for, it is refused. -/
theorem refuse (full : counted = most.toNat)
    (first : ∀ here now, asks 0 here now ↔ here = store ∧ now = console) :
    Exact kind most counted asks ends
      { begun := [], refused := true, outcome := .failed (.budgetExceeded most) console } := by
  have used : most.toNat - counted = 0 := by omega
  have limit (k : Nat) : ¬ counted + k < most.toNat := by omega
  refine ⟨by simp [full], fun k here now => by simp [limit], nofun, by simp [used, first], ?_⟩
  intro limit last
  rw [used]
  constructor
  · rintro ⟨⟨⟩, _⟩
    exact ⟨rfl, store, (first store console).mpr ⟨rfl, rfl⟩⟩
  · rintro ⟨rfl, here, asked⟩
    obtain ⟨rfl, rfl⟩ := (first here last).mp asked
    exact ⟨rfl, nofun⟩

/-- Where a body fails, it is the last, and what it reports is not the loop's own. -/
theorem broken (room : counted + 1 ≤ most.toNat)
    (first : ∀ here now, asks 0 here now ↔ here = store ∧ now = console)
    (never : ∀ k here now, ¬ asks (k + 1) here now)
    (ended : ends store console (.failed fault between)) :
    ((Course.still (.failed fault between)).after store console).Exact kind most counted asks
      ends := by
  obtain ⟨k, left⟩ : ∃ k, most.toNat - counted = k + 1 := ⟨most.toNat - counted - 1, by omega⟩
  have some : counted < most.toNat := room
  refine ⟨room, ?_, nofun, by simp [left, never, Course.after, Course.still], ?_⟩
  · intro k here now
    cases k with
    | zero => simp [Course.after, first, some, eq_comm]
    | succ k => simp [Course.after, Course.still, never]
  · intro limit last
    constructor
    · rintro ⟨⟨⟩, none⟩
      exact absurd ended (none store console List.mem_cons_self)
    · rintro ⟨_, here, asked⟩
      rw [left] at asked
      exact absurd asked (never k here last)

/-- One body that does not fail, and then the rest of the course. -/
theorem after {course : Course}
    (first : ∀ here now, asks 0 here now ↔ here = store ∧ now = console)
    (completes : ∀ fault last, ¬ ends store console (.failed fault last))
    (rest : course.Exact kind most (counted + 1) (fun k => asks (k + 1)) ends) :
    (course.after store console).Exact kind most counted asks ends := by
  have room := rest.within
  have shift : most.toNat - (counted + 1) + 1 = most.toNat - counted := by omega
  have longer : (course.after store console).begun.length = course.begun.length + 1 := rfl
  refine ⟨by omega, ?_, ?_, ?_, ?_⟩
  · intro k here now
    cases k with
    | zero =>
      have some : counted < most.toNat := by omega
      simp [Course.after, first, some, eq_comm]
    | succ k =>
      have later := rest.bodies k here now
      rw [Nat.add_right_comm, Nat.add_assoc] at later
      simpa [Course.after] using later
  · intro store console ended
    obtain ⟨before, rounds, event, count⟩ := rest.finished store console ended
    exact ⟨before, rounds, event, by omega⟩
  · have same := rest.refused
    rwa [shift] at same
  · intro limit last
    have same := rest.raised limit last
    rw [shift] at same
    rw [← same]
    constructor
    · rintro ⟨excess, none⟩
      exact ⟨excess, fun here now begun => none here now (List.mem_cons_of_mem _ begun)⟩
    · rintro ⟨excess, none⟩
      refine ⟨excess, fun here now begun => ?_⟩
      rcases List.mem_cons.mp begun with this | later
      · cases this
        exact completes _ last
      · exact none here now later

end Course.Exact

/-- The course of a loop that ends is exact. -/
theorem LoopControl.watch_exact {control : LoopControl} (valued : control.FailsOfValues)
    (settings : Settings) {most : UInt64} (below : most < 18446744073709551615) (body : Stmt)
    (bodyFuel fuel : Nat) (rounds : UInt64) (store : Store) (console : Console)
    (room : rounds.toNat ≤ most.toNat)
    (ended : (control.watch (some most)
      (fun store console => body.exec settings bodyFuel store console) fuel rounds store
      console).outcome ≠ .outOfFuel) :
    (control.watch (some most) (fun store console => body.exec settings bodyFuel store console)
      fuel rounds store console).Exact control.kind most rounds.toNat
      (control.Asks settings body store console) (body.EndsIn settings) := by
  induction fuel generalizing rounds store console with
  | zero => exact absurd rfl ended
  | succ fuel ih =>
    rw [watch] at ended ⊢
    cases entered : control.enter store with
    | error fault =>
      refine .failed room (fun k here now asked => ?_) (valued.enters store fault entered)
      simpa [entered] using asked.entered
    | ok begins =>
      cases begins with
      | false =>
        refine .done room fun k here now asked => ?_
        simpa [entered] using asked.entered
      | true =>
        have first (here : Store) (now : Console) :
            control.Asks settings body store console 0 here now ↔ here = store ∧ now = console := by
          simp [asks_zero_iff, entered]
        cases begun : beginRound (some most) rounds with
        | error fault =>
          obtain ⟨full, rfl⟩ := toNat_of_refused room begun
          exact .refuse full first
        | ok counted =>
          have counts := toNat_of_beginRound below begun
          simp only [entered, begun] at ended
          dsimp only
          cases ran : body.exec settings bodyFuel store console with
          | outOfFuel =>
            rw [ran] at ended
            exact absurd rfl ended
          | failed fault between =>
            have failed : body.EndsIn settings store console (.failed fault between) :=
              ⟨Outcome.failed_ne_outOfFuel _ _, bodyFuel, ran⟩
            refine .broken (by omega) first (fun k here now => ?_) failed
            exact not_asks_succ_of_failed failed
          | done after between =>
            have done : body.EndsIn settings store console (.done after between) :=
              ⟨Outcome.done_ne_outOfFuel _ _, bodyFuel, ran⟩
            have asks_iff (k : Nat) (here : Store) (now : Console) :
                control.Asks settings body store console (k + 1) here now ↔
                  ∃ next, control.leave after = .ok (next, true) ∧
                    control.Asks settings body next between k here now :=
              asks_succ_iff_of_done entered done
            have completes (fault : Fault) (last : Console) :
                ¬ body.EndsIn settings store console (.failed fault last) := by
              intro failed
              have same := done.unique failed
              cases same
            refine .after first completes ?_
            rw [← counts.1]
            dsimp only
            cases left : control.leave after with
            | error fault =>
              refine .failed counts.2 (fun k here now => ?_) (valued.leaves after fault left)
              simp [asks_iff, left]
            | ok result =>
              obtain ⟨next, again⟩ := result
              cases again with
              | false => exact .done counts.2 fun k here now => by simp [asks_iff, left]
              | true =>
                have rest : (fun k => control.Asks settings body store console (k + 1)) =
                    control.Asks settings body next between := by
                  funext k here now
                  simp [asks_iff, left]
                simp only [ran, left] at ended
                rw [rest]
                exact ih counted next between counts.2 ended

namespace Stmt

theorem Opens.watch_eq {s body : Stmt} {store first : Store} {control : LoopControl}
    (opens : s.Opens store control body first) (settings : Settings) (fuel : Nat)
    (console : Console) :
    s.watch settings fuel store console = control.watch settings.maxIterations
      (fun store console => body.exec settings fuel store console) fuel 0 first console := by
  cases opens with
  | whileDo | repeatUntil | doWhile => rfl
  | forTo started => rw [watch, started]

theorem Opens.loop_eq {s body : Stmt} {store first : Store} {control : LoopControl}
    (opens : s.Opens store control body first) : s.loop? = some (control.kind, body) := by
  cases opens <;> rfl

theorem Opens.failsOfValues {s body : Stmt} {store first : Store} {control : LoopControl}
    (opens : s.Opens store control body first) : control.FailsOfValues := by
  cases opens with
  | whileDo => exact .whileDo _
  | repeatUntil => exact .repeatUntil _
  | doWhile => exact .doWhile _
  | forTo => exact .forTo _ _

/-- A loop begins unless it is a counting loop whose lower bound fails, which asks for nothing. -/
theorem opens_or_fails {s body : Stmt} {kind : LoopKind} (loop : s.loop? = some (kind, body))
    (settings : Settings) (store : Store) (console : Console) :
    (∃ control body first, s.Opens store control body first) ∨
      (∃ fault : Fault, fault.OfValues ∧
        ∀ fuel, s.watch settings fuel store console = .still (.failed fault console)) ∧
      ∀ k here now, ¬ s.Asks settings store console k here now := by
  cases s with
  | whileDo | repeatUntil | doWhile => exact .inl ⟨_, _, _, by constructor⟩
  | forTo counter low high body =>
    cases started : low.evalInt store (.statement .forTo) with
    | ok start => exact .inl ⟨_, _, _, .forTo started⟩
    | error fault =>
      refine .inr ⟨⟨fault, low.evalInt_valued store _ fault started, fun fuel => ?_⟩,
        fun k here now asked => ?_⟩
      · simp [watch, started]
      · obtain ⟨_, _, _, opens, _⟩ := asked.opens
        cases opens with
        | forTo started' =>
          rw [started] at started'
          cases started'
  | _ => simp [loop?] at loop

/-- Under a limit below the greatest count, the course of every loop is exact. -/
theorem watch_exact {settings : Settings} {most : UInt64}
    (limited : settings.maxIterations = some most) (below : most < 18446744073709551615)
    {s body : Stmt} {kind : LoopKind} (loop : s.loop? = some (kind, body)) (store : Store)
    (console : Console) {fuel : Nat} (ended : s.exec settings fuel store console ≠ .outOfFuel) :
    (s.watch settings fuel store console).Exact kind most 0 (s.Asks settings store console)
      (body.EndsIn settings) := by
  rw [← watch_outcome] at ended
  rcases opens_or_fails loop settings store console with ⟨control, body', first, opens⟩ | fails
  · obtain ⟨rfl, rfl⟩ : kind = control.kind ∧ body = body' := by
      simpa using loop.symm.trans opens.loop_eq
    have asks : s.Asks settings store console = control.Asks settings body first console := by
      funext k here now
      exact propext opens.asks_iff
    rw [opens.watch_eq, limited] at ended ⊢
    rw [asks]
    exact LoopControl.watch_exact opens.failsOfValues settings below body fuel fuel 0 first console
      (Nat.zero_le _) ended
  · obtain ⟨⟨fault, ofValues, failed⟩, never⟩ := fails
    rw [failed fuel]
    exact .failed (Nat.zero_le _) never ofValues

/-- A limit below the greatest count makes every run of every program end, and it is exact. In each
execution of a loop the bodies that begin are those asked for among the first `n`, the event at its
end has their number, and it is the loop itself that reports an excess, and then over `n`, if and
only if `n` bodies have completed and another is asked for. A body is run by itself, so the count of
a loop in it begins at zero each time. -/
theorem exec_within_budget (prompt : String) {n : UInt64} (below : n < 18446744073709551615) :
    (∀ (s : Stmt) (store : Store) (console : Console), ∃ outcome,
      s.EndsIn { maxIterations := some n, prompt := prompt } store console outcome) ∧
    (∀ (program : Program) (console : Console), ∃ fuel,
      program.run { maxIterations := some n, prompt := prompt } fuel console ≠ .outOfFuel) ∧
    ∀ (s body : Stmt) (kind : LoopKind), s.loop? = some (kind, body) →
      ∀ (store : Store) (console : Console) (fuel : Nat),
        s.exec { maxIterations := some n, prompt := prompt } fuel store console ≠ .outOfFuel →
        (s.watch { maxIterations := some n, prompt := prompt } fuel store console).outcome =
          s.exec { maxIterations := some n, prompt := prompt } fuel store console ∧
        (s.watch { maxIterations := some n, prompt := prompt } fuel store console).Exact kind n 0
          (s.Asks { maxIterations := some n, prompt := prompt } store console)
          (body.EndsIn { maxIterations := some n, prompt := prompt }) := by
  have ends (s : Stmt) (store : Store) (console : Console) : ∃ outcome,
      s.EndsIn { maxIterations := some n, prompt := prompt } store console outcome :=
    exec_ends rfl below s store console
  refine ⟨ends, fun program console => ?_, fun s body kind loop store console fuel ended => ?_⟩
  · obtain ⟨outcome, ended, fuel, reached⟩ := ends program.body (.initial program.vars)
      (console.record (.started program.name program.vars.length))
    refine ⟨fuel, ?_⟩
    cases outcome with
    | outOfFuel => exact absurd rfl ended
    | done store after => simp [Program.run, reached]
    | failed fault after => simp [Program.run, reached]
  · exact ⟨watch_outcome _ fuel s store console, watch_exact rfl below loop store console ended⟩

/-- Two rounds of two rounds each are within a limit of two; the third round is not. -/
theorem exec_within_budget_nested :
    (2 : UInt64) < 18446744073709551615 ∧ ∃ course,
      (Stmt.forTo ⟨"i"⟩ (.int 1) (.int 3) (.forTo ⟨"j"⟩ (.int 1) (.int 2) .skip)).watch
        { maxIterations := some 2 } 4 .empty { source := .script [], sink := .buffer } = course ∧
      course.Exact .forTo 2 0
        ((Stmt.forTo ⟨"i"⟩ (.int 1) (.int 3) (.forTo ⟨"j"⟩ (.int 1) (.int 2) .skip)).Asks
          { maxIterations := some 2 } .empty { source := .script [], sink := .buffer })
        ((Stmt.forTo ⟨"j"⟩ (.int 1) (.int 2) .skip).EndsIn { maxIterations := some 2 }) ∧
      course.begun.length = 2 ∧ course.refused = true ∧
      course.outcome = .failed (.budgetExceeded 2)
        { source := .script [], sink := .buffer,
          events := #[.loopFinished .forTo 2, .loopFinished .forTo 2] } := by
  refine ⟨by decide, _, rfl, ?_, by decide +kernel, by decide +kernel, by decide +kernel⟩
  exact ((exec_within_budget defaultPrompt (by decide)).2.2 _ _ .forTo rfl _ _ 4
    (by decide +kernel)).2

end Stmt

end ImpLang
