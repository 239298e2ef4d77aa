import ImpLang.Proofs.Budget
import ImpLang.Proofs.Rounds

/-!
# Courses that are taken

More fuel lets a course go on and does not change what there was of it (`watch_below`), so a loop
that ends takes one course, and where its bodies begin does not depend on fuel. For the control of a
loop there is one rule for each way in which its course can go on or end.
-/

namespace ImpLang

/-- The first course is the beginning of the second, or all of it if it has come to its end. -/
structure Course.Below (course more : Course) : Prop where
  begun : course.begun <+: more.begun
  same : course.outcome ≠ .outOfFuel → more = course

namespace Course.Below

theorem refl (course : Course) : course.Below course :=
  ⟨List.prefix_rfl, fun _ => rfl⟩

theorem starved (more : Course) : (Course.still .outOfFuel).Below more :=
  ⟨List.nil_prefix, fun ended => absurd rfl ended⟩

theorem after {course more : Course} (below : course.Below more) (store : Store)
    (console : Console) : (course.after store console).Below (more.after store console) := by
  constructor
  · exact List.cons_prefix_cons.mpr ⟨rfl, below.begun⟩
  · intro ended
    rw [below.same ended]

end Course.Below

theorem LoopControl.watch_below (control : LoopControl) (limit : Option UInt64)
    {body stronger : Store → Console → Outcome Fault}
    (agrees : ∀ store console, body store console ≠ .outOfFuel →
      stronger store console = body store console)
    {fuel more : Nat} (enough : fuel ≤ more) (rounds : UInt64) (store : Store)
    (console : Console) :
    (control.watch limit body fuel rounds store console).Below
      (control.watch limit stronger more rounds store console) := by
  induction fuel generalizing more rounds store console with
  | zero => exact .starved _
  | succ fuel ih =>
    obtain ⟨more, rfl⟩ : ∃ k, more = k + 1 := ⟨more - 1, by omega⟩
    rw [watch, watch]
    cases control.enter store with
    | error fault => exact .refl _
    | ok begins =>
      cases begins with
      | false => exact .refl _
      | true =>
        cases beginRound limit rounds with
        | error fault => exact .refl _
        | ok counted =>
          refine Course.Below.after ?_ store console
          by_cases starves : body store console = .outOfFuel
          · rw [starves]
            exact .starved _
          · rw [agrees store console starves]
            cases ran : body store console with
            | outOfFuel => exact absurd ran starves
            | failed fault between => exact .refl _
            | done after between =>
              dsimp only
              cases control.leave after with
              | error fault => exact .refl _
              | ok result =>
                obtain ⟨next, again⟩ := result
                cases again with
                | false => exact .refl _
                | true => exact ih (by omega) counted next between

namespace Stmt

theorem watch_below (settings : Settings) {fuel more : Nat} (enough : fuel ≤ more) (s : Stmt)
    (store : Store) (console : Console) :
    (s.watch settings fuel store console).Below (s.watch settings more store console) := by
  have agrees (body : Stmt) (store : Store) (console : Console) :
      body.exec settings fuel store console ≠ .outOfFuel →
      body.exec settings more store console = body.exec settings fuel store console :=
    exec_mono settings enough body store console
  have still : (Course.still (s.exec settings fuel store console)).Below
      (.still (s.exec settings more store console)) :=
    ⟨List.prefix_rfl, fun ended => congrArg Course.still (agrees s store console ended)⟩
  cases s with
  | whileDo cond body | repeatUntil body cond | doWhile body cond =>
    exact LoopControl.watch_below _ _ (agrees body) enough 0 store console
  | forTo counter low high body =>
    rw [watch, watch]
    cases low.evalInt store (.statement .forTo) with
    | error fault => exact .refl _
    | ok start => exact LoopControl.watch_below _ _ (agrees body) enough 0 _ console
  | _ => exact still

/-- Some fuel is enough for a statement to end, and this is the course it takes. -/
def Takes (settings : Settings) (s : Stmt) (store : Store) (console : Console)
    (course : Course) : Prop :=
  course.outcome ≠ .outOfFuel ∧ ∃ fuel, s.watch settings fuel store console = course

/-- In its course, from this store and console, a loop begins a body here and now. -/
def Begins (settings : Settings) (s : Stmt) (store : Store) (console : Console) (here : Store)
    (now : Console) : Prop :=
  ∃ fuel, (here, now) ∈ (s.watch settings fuel store console).begun

variable {settings : Settings} {s : Stmt} {store : Store} {console : Console}

theorem Takes.unique {course course' : Course} (takes : s.Takes settings store console course)
    (takes' : s.Takes settings store console course') : course = course' := by
  obtain ⟨ended, fuel, rfl⟩ := takes
  obtain ⟨ended', fuel', rfl⟩ := takes'
  rw [← (watch_below settings (Nat.le_max_left fuel fuel') s store console).same ended,
    (watch_below settings (Nat.le_max_right fuel fuel') s store console).same ended']

theorem Takes.ends {course : Course} (takes : s.Takes settings store console course) :
    s.EndsIn settings store console course.outcome := by
  obtain ⟨ended, fuel, rfl⟩ := takes
  exact ⟨ended, fuel, (watch_outcome settings fuel s store console).symm⟩

theorem EndsIn.takes {outcome : Outcome Fault} (ends : s.EndsIn settings store console outcome) :
    ∃ course, s.Takes settings store console course ∧ course.outcome = outcome := by
  obtain ⟨ended, fuel, rfl⟩ := ends
  have same := watch_outcome settings fuel s store console
  exact ⟨_, ⟨same ▸ ended, fuel, rfl⟩, same⟩

end Stmt

/-! ## Rules -/

namespace LoopControl

/-- After so many rounds before, some fuel is enough for a loop with this control to end, and this
is the course it takes. -/
def Takes (control : LoopControl) (settings : Settings) (body : Stmt) (rounds : UInt64)
    (store : Store) (console : Console) (course : Course) : Prop :=
  course.outcome ≠ .outOfFuel ∧ ∃ fuel, control.watch settings.maxIterations
    (fun store console => body.exec settings fuel store console) fuel rounds store console = course

/-- After so many rounds before, a loop with this control begins a body here and now. -/
def Begins (control : LoopControl) (settings : Settings) (body : Stmt) (rounds : UInt64)
    (store : Store) (console : Console) (here : Store) (now : Console) : Prop :=
  ∃ fuel, (here, now) ∈ (control.watch settings.maxIterations
    (fun store console => body.exec settings fuel store console) fuel rounds store console).begun

variable {control : LoopControl} {settings : Settings} {body : Stmt} {rounds counted : UInt64}
  {store after next here : Store} {console between now : Console} {fault : Fault}

theorem Takes.stop (stops : control.enter store = .ok false) :
    control.Takes settings body rounds store console
      (.still (.done store (console.record (.loopFinished control.kind rounds)))) := by
  refine ⟨nofun, 1, ?_⟩
  rw [watch, stops]

theorem Takes.refused (entered : control.enter store = .ok true)
    (refused : beginRound settings.maxIterations rounds = .error fault) :
    control.Takes settings body rounds store console
      { begun := [], refused := true, outcome := .failed fault console } := by
  refine ⟨nofun, 1, ?_⟩
  simp only [watch, entered, refused]

theorem Takes.leaveFails (entered : control.enter store = .ok true)
    (begun : beginRound settings.maxIterations rounds = .ok counted)
    (ran : body.EndsIn settings store console (.done after between))
    (failed : control.leave after = .error fault) :
    control.Takes settings body rounds store console
      ((Course.still (.failed fault between)).after store console) := by
  obtain ⟨fuel, stays⟩ := ran.stays
  refine ⟨nofun, fuel + 1, ?_⟩
  simp only [watch, entered, begun, stays _ (Nat.le_succ fuel), failed]

theorem Takes.again {course : Course} (entered : control.enter store = .ok true)
    (begun : beginRound settings.maxIterations rounds = .ok counted)
    (ran : body.EndsIn settings store console (.done after between))
    (left : control.leave after = .ok (next, true))
    (goesOn : control.Takes settings body counted next between course) :
    control.Takes settings body rounds store console (course.after store console) := by
  obtain ⟨fuel, stays⟩ := ran.stays
  obtain ⟨ended, fuel', rfl⟩ := goesOn
  refine ⟨ended, max fuel fuel' + 1, ?_⟩
  simp only [watch, entered, begun, stays _ (Nat.le_succ_of_le (Nat.le_max_left fuel fuel')), left]
  congr 1
  refine (control.watch_below _ ?_ (Nat.le_max_right fuel fuel') counted next between).same ended
  intro store console bodyEnded
  exact Stmt.exec_mono settings (by omega) body store console bodyEnded

/-- A loop that begins, and is done, has had a body that was done. -/
theorem Takes.begun_of_done {course : Course} {final : Store} {last : Console}
    (takes : control.Takes settings body rounds store console course)
    (entered : control.enter store = .ok true) (done : course.outcome = .done final last) :
    (∃ rest, course.begun = (store, console) :: rest) ∧
      ∃ after between, body.EndsIn settings store console (.done after between) := by
  obtain ⟨ended, fuel, rfl⟩ := takes
  cases fuel with
  | zero => exact absurd rfl ended
  | succ fuel =>
    rw [watch, entered] at done ⊢
    cases begun : beginRound settings.maxIterations rounds with
    | error fault =>
      rw [begun] at done
      cases done
    | ok counted =>
      rw [begun] at done
      refine ⟨⟨_, rfl⟩, ?_⟩
      cases ran : body.exec settings (fuel + 1) store console with
      | outOfFuel =>
        rw [ran] at done
        cases done
      | failed fault between =>
        rw [ran] at done
        cases done
      | done after between =>
        exact ⟨after, between, Outcome.done_ne_outOfFuel after between, fuel + 1, ran⟩

theorem Begins.first (entered : control.enter store = .ok true)
    (begun : beginRound settings.maxIterations rounds = .ok counted) :
    control.Begins settings body rounds store console store console := by
  refine ⟨1, ?_⟩
  simp only [watch, entered, begun]
  exact List.mem_cons_self

theorem Begins.later (entered : control.enter store = .ok true)
    (begun : beginRound settings.maxIterations rounds = .ok counted)
    (ran : body.EndsIn settings store console (.done after between))
    (left : control.leave after = .ok (next, true))
    (begins : control.Begins settings body counted next between here now) :
    control.Begins settings body rounds store console here now := by
  obtain ⟨fuel, stays⟩ := ran.stays
  obtain ⟨fuel', member⟩ := begins
  refine ⟨max fuel fuel' + 1, ?_⟩
  simp only [watch, entered, begun, stays _ (Nat.le_succ_of_le (Nat.le_max_left fuel fuel')), left]
  refine List.mem_cons_of_mem _ ?_
  -- The body has one unit of fuel more than the rest of the loop.
  refine (control.watch_below _ ?_ (Nat.le_max_right fuel fuel') counted next
    between).begun.subset member
  intro store console bodyEnded
  exact Stmt.exec_mono settings (by omega) body store console bodyEnded

end LoopControl

namespace Stmt

variable {settings : Settings} {s body : Stmt} {store first here : Store} {console now : Console}
  {control : LoopControl}

theorem Opens.takes_iff (opens : s.Opens store control body first) {course : Course} :
    s.Takes settings store console course ↔
      control.Takes settings body 0 first console course := by
  simp only [Takes, LoopControl.Takes, opens.watch_eq]

theorem Opens.begins_iff (opens : s.Opens store control body first) :
    s.Begins settings store console here now ↔
      control.Begins settings body 0 first console here now := by
  simp only [Begins, LoopControl.Begins, opens.watch_eq]

end Stmt

end ImpLang
