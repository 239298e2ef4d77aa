import ImpLang.Proofs.Ending

/-!
# Courses of loops

The course of a loop is what one execution of it makes of its rounds. `Stmt.watch` runs a loop as
`exec` does (`watch_outcome`) and keeps on record where bodies began and whether the count of this
loop, and not of one in its body, refused a round. `Stmt.Asks` says, without a count, when a loop
asks for another body after so many have completed; for the controls of loops this is
`LoopControl.Asks` (`Opens.asks_iff`).
-/

namespace ImpLang

/-- What one execution of a loop made of its rounds. -/
structure Course where
  /-- Where each body began, in turn. -/
  begun : List (Store × Console)
  /-- Whether the loop's own count refused a round. -/
  refused : Bool
  outcome : Outcome Fault
  deriving DecidableEq, Repr

namespace Course

/-- A course in which no body begins and no round is refused. -/
def still (outcome : Outcome Fault) : Course where
  begun := []
  refused := false
  outcome := outcome

/-- A course with one body before all others. -/
def after (store : Store) (console : Console) (course : Course) : Course :=
  { course with begun := (store, console) :: course.begun }

end Course

/-- Runs a loop as `iterate` does, and keeps the course of it. -/
def LoopControl.watch (control : LoopControl) (limit : Option UInt64)
    (body : Store → Console → Outcome Fault) : Nat → UInt64 → Store → Console → Course
  | 0, _, _, _ => .still .outOfFuel
  | fuel + 1, rounds, store, console =>
    match control.enter store with
    | .error fault => .still (.failed fault console)
    | .ok false => .still (.done store (console.record (.loopFinished control.kind rounds)))
    | .ok true =>
      match beginRound limit rounds with
      | .error fault => { begun := [], refused := true, outcome := .failed fault console }
      | .ok rounds =>
        .after store console <|
          match body store console with
          | .outOfFuel => .still .outOfFuel
          | .failed fault console => .still (.failed fault console)
          | .done store console =>
            match control.leave store with
            | .error fault => .still (.failed fault console)
            | .ok (store, false) =>
              .still (.done store (console.record (.loopFinished control.kind rounds)))
            | .ok (store, true) => control.watch limit body fuel rounds store console

theorem LoopControl.watch_outcome (control : LoopControl) (limit : Option UInt64)
    (body : Store → Console → Outcome Fault) (fuel : Nat) (rounds : UInt64) (store : Store)
    (console : Console) :
    (control.watch limit body fuel rounds store console).outcome =
      control.iterate limit body fuel rounds store console := by
  induction fuel generalizing rounds store console with
  | zero => rfl
  | succ fuel ih =>
    rw [watch, iterate_succ]
    cases entered : control.enter store with
    | error fault => rfl
    | ok begins =>
      cases begins with
      | false => rfl
      | true =>
        cases begun : beginRound limit rounds with
        | error fault => rfl
        | ok counted =>
          cases ran : body store console with
          | outOfFuel => simp [round, ran, Course.after, Course.still]
          | failed fault between => simp [round, ran, Course.after, Course.still]
          | done after between =>
            cases left : control.leave after with
            | error fault => simp [round, ran, left, Course.after, Course.still]
            | ok result =>
              obtain ⟨next, again⟩ := result
              cases again with
              | false => simp [round, ran, left, Course.after, Course.still]
              | true => simpa [round, ran, left, Course.after] using ih counted next between

namespace Stmt

/-- The kind of loop that a statement is, and its body, if it is one. -/
def loop? : Stmt → Option (LoopKind × Stmt)
  | .whileDo _ body => some (.whileDo, body)
  | .repeatUntil body _ => some (.repeatUntil, body)
  | .doWhile body _ => some (.doWhile, body)
  | .forTo _ _ _ body => some (.forTo, body)
  | _ => none

/-- The course of a statement that is a loop. In that of any other statement nothing happens to
rounds. -/
def watch (settings : Settings) (fuel : Nat) : Stmt → Store → Console → Course
  | .whileDo cond body, store, console =>
    (LoopControl.whileDo cond).watch settings.maxIterations
      (fun store console => body.exec settings fuel store console) fuel 0 store console
  | .repeatUntil body cond, store, console =>
    (LoopControl.repeatUntil cond).watch settings.maxIterations
      (fun store console => body.exec settings fuel store console) fuel 0 store console
  | .doWhile body cond, store, console =>
    (LoopControl.doWhile cond).watch settings.maxIterations
      (fun store console => body.exec settings fuel store console) fuel 0 store console
  | .forTo counter low high body, store, console =>
    match low.evalInt store (.statement .forTo) with
    | .error fault => .still (.failed fault console)
    | .ok start =>
      (LoopControl.forTo counter high).watch settings.maxIterations
        (fun store console => body.exec settings fuel store console) fuel 0
        (store.bind counter start) console
  | s, store, console => .still (s.exec settings fuel store console)

theorem watch_outcome (settings : Settings) (fuel : Nat) (s : Stmt) (store : Store)
    (console : Console) :
    (s.watch settings fuel store console).outcome = s.exec settings fuel store console := by
  cases s with
  | whileDo | repeatUntil | doWhile => exact LoopControl.watch_outcome _ _ _ _ _ _ _
  | forTo counter low high body =>
    rw [watch, exec]
    cases started : low.evalInt store (.statement .forTo) with
    | error fault => rfl
    | ok start => exact LoopControl.watch_outcome _ _ _ _ _ _ _
  | _ => rfl

/-- `s.Asks settings store console k here now`: begun with this store and console, the loop has had
`k` bodies that completed normally, and its control asks for another, which would begin here and
now. Each body is a run of its own. -/
inductive Asks (settings : Settings) : Stmt → Store → Console → Nat → Store → Console → Prop
  | whileFirst {cond body store console}
      (holds : cond.evalBool store (.statement .whileDo) = .ok true) :
      Asks settings (.whileDo cond body) store console 0 store console
  | whileNext {cond body store console k here now after between}
      (asked : Asks settings (.whileDo cond body) store console k here now)
      (ran : body.EndsIn settings here now (.done after between))
      (holds : cond.evalBool after (.statement .whileDo) = .ok true) :
      Asks settings (.whileDo cond body) store console (k + 1) after between
  | repeatFirst {body cond store console} :
      Asks settings (.repeatUntil body cond) store console 0 store console
  | repeatNext {body cond store console k here now after between}
      (asked : Asks settings (.repeatUntil body cond) store console k here now)
      (ran : body.EndsIn settings here now (.done after between))
      (fails : cond.evalBool after (.statement .repeatUntil) = .ok false) :
      Asks settings (.repeatUntil body cond) store console (k + 1) after between
  | doFirst {body cond store console} :
      Asks settings (.doWhile body cond) store console 0 store console
  | doNext {body cond store console k here now after between}
      (asked : Asks settings (.doWhile body cond) store console k here now)
      (ran : body.EndsIn settings here now (.done after between))
      (holds : cond.evalBool after (.statement .doWhile) = .ok true) :
      Asks settings (.doWhile body cond) store console (k + 1) after between
  | forFirst {counter low high body store console start bound}
      (started : low.evalInt store (.statement .forTo) = .ok start)
      (bounded : high.evalInt (store.bind counter start) (.statement .forTo) = .ok bound)
      (within : start ≤ bound) :
      Asks settings (.forTo counter low high body) store console 0 (store.bind counter start)
        console
  | forNext {counter low high body store console k here now after between current next bound}
      (asked : Asks settings (.forTo counter low high body) store console k here now)
      (ran : body.EndsIn settings here now (.done after between))
      (counted : after.get? counter = some current)
      (increased : ArithOp.add.apply current 1 = .ok next)
      (bounded : high.evalInt (after.bind counter next) (.statement .forTo) = .ok bound)
      (within : next ≤ bound) :
      Asks settings (.forTo counter low high body) store console (k + 1)
        (after.bind counter next) between

end Stmt

/-! ## Asking in terms of controls -/

/-- The same for a control. The answers to its questions have to be yes. -/
inductive LoopControl.Asks (control : LoopControl) (settings : Settings) (body : Stmt) :
    Store → Console → Nat → Store → Console → Prop
  | first {store console} (entered : control.enter store = .ok true) :
      Asks control settings body store console 0 store console
  | next {store console k here now after between next}
      (asked : Asks control settings body store console k here now)
      (ran : body.EndsIn settings here now (.done after between))
      (left : control.leave after = .ok (next, true)) (entered : control.enter next = .ok true) :
      Asks control settings body store console (k + 1) next between

namespace LoopControl

variable {control : LoopControl} {settings : Settings} {body : Stmt} {store here : Store}
  {console now : Console} {k : Nat}

theorem Asks.entered (asked : control.Asks settings body store console k here now) :
    control.enter store = .ok true := by
  induction asked with
  | first entered => exact entered
  | next _ _ _ _ ih => exact ih

theorem asks_zero_iff :
    control.Asks settings body store console 0 here now ↔
      control.enter store = .ok true ∧ here = store ∧ now = console := by
  constructor
  · intro asked
    cases asked with
    | first entered => exact ⟨entered, rfl, rfl⟩
  · rintro ⟨entered, rfl, rfl⟩
    exact .first entered

/-- Asking once more is asking after the first body. -/
theorem asks_succ_iff :
    control.Asks settings body store console (k + 1) here now ↔
      control.enter store = .ok true ∧ ∃ after between next,
        body.EndsIn settings store console (.done after between) ∧
        control.leave after = .ok (next, true) ∧
        control.Asks settings body next between k here now := by
  constructor
  · intro asked
    refine ⟨asked.entered, ?_⟩
    induction k generalizing here now with
    | zero =>
      cases asked with
      | next asked ran left entered =>
        cases asked with
        | first => exact ⟨_, _, _, ran, left, .first entered⟩
    | succ k ih =>
      cases asked with
      | next asked ran left entered =>
        obtain ⟨after, between, next, firstRan, firstLeft, rest⟩ := ih asked
        exact ⟨after, between, next, firstRan, firstLeft, .next rest ran left entered⟩
  · rintro ⟨entered, after, between, next, ran, left, asked⟩
    induction asked with
    | first again => exact .next (.first entered) ran left again
    | next _ laterRan laterLeft again ih => exact .next ih laterRan laterLeft again

theorem not_asks_succ_of_failed {fault : Fault} {between : Console}
    (failed : body.EndsIn settings store console (.failed fault between)) :
    ¬ control.Asks settings body store console (k + 1) here now := by
  intro asked
  obtain ⟨_, _, _, _, ran, _⟩ := asks_succ_iff.mp asked
  have same := ran.unique failed
  cases same

theorem asks_succ_iff_of_done {after : Store} {between : Console}
    (entered : control.enter store = .ok true)
    (ran : body.EndsIn settings store console (.done after between)) :
    control.Asks settings body store console (k + 1) here now ↔
      ∃ next, control.leave after = .ok (next, true) ∧
        control.Asks settings body next between k here now := by
  constructor
  · intro asked
    obtain ⟨_, _, _, next, ran', left, rest⟩ := asks_succ_iff.mp asked
    have same := ran'.unique ran
    cases same
    exact ⟨next, left, rest⟩
  · rintro ⟨next, left, rest⟩
    exact asks_succ_iff.mpr ⟨entered, after, between, next, ran, left, rest⟩

end LoopControl

/-- The control, body and first store of the loop that a statement is. A counting loop whose lower
bound fails does not get that far. -/
inductive Stmt.Opens : Stmt → Store → LoopControl → Stmt → Store → Prop
  | whileDo {cond body store} : Opens (.whileDo cond body) store (.whileDo cond) body store
  | repeatUntil {body cond store} :
      Opens (.repeatUntil body cond) store (.repeatUntil cond) body store
  | doWhile {body cond store} : Opens (.doWhile body cond) store (.doWhile cond) body store
  | forTo {counter low high body store start}
      (started : low.evalInt store (.statement .forTo) = .ok start) :
      Opens (.forTo counter low high body) store (.forTo counter high) body
        (store.bind counter start)

namespace LoopControl

/-- A counting loop goes on from a counter just set while it is within the bound. -/
theorem enter_forTo_bind {counter : Name} {high : Expr} {store : Store} {current : Int64} :
    (forTo counter high).enter (store.bind counter current) = .ok true ↔
      ∃ bound, high.evalInt (store.bind counter current) (.statement .forTo) = .ok bound ∧
        current ≤ bound := by
  simp [enter_forTo_ok, store.lookup_bind_self counter current]

end LoopControl

namespace Stmt

variable {settings : Settings} {s body : Stmt} {store first here : Store} {console now : Console}
  {control : LoopControl} {k : Nat}

theorem Asks.opens (asked : s.Asks settings store console k here now) :
    ∃ control body first, s.Opens store control body first ∧
      control.Asks settings body first console k here now := by
  induction asked with
  | whileFirst holds => exact ⟨_, _, _, .whileDo, .first holds⟩
  | whileNext _ ran holds ih =>
    obtain ⟨_, _, _, ⟨⟩, asked⟩ := ih
    exact ⟨_, _, _, .whileDo, .next asked ran rfl holds⟩
  | repeatFirst => exact ⟨_, _, _, .repeatUntil, .first rfl⟩
  | repeatNext _ ran fails ih =>
    obtain ⟨_, _, _, ⟨⟩, asked⟩ := ih
    exact ⟨_, _, _, .repeatUntil,
      .next asked ran (LoopControl.leave_repeatUntil_ok.mpr ⟨rfl, fails⟩) rfl⟩
  | doFirst => exact ⟨_, _, _, .doWhile, .first rfl⟩
  | doNext _ ran holds ih =>
    obtain ⟨_, _, _, ⟨⟩, asked⟩ := ih
    exact ⟨_, _, _, .doWhile,
      .next asked ran (LoopControl.leave_doWhile_ok.mpr ⟨rfl, holds⟩) rfl⟩
  | forFirst started bounded within =>
    have entered := LoopControl.enter_forTo_bind.mpr ⟨_, bounded, within⟩
    exact ⟨_, _, _, .forTo started, .first entered⟩
  | forNext _ ran counted increased bounded within ih =>
    obtain ⟨_, _, _, opens, asked⟩ := ih
    cases opens with | forTo started =>
    have entered := LoopControl.enter_forTo_bind.mpr ⟨_, bounded, within⟩
    refine ⟨_, _, _, .forTo started, .next asked ran ?_ entered⟩
    exact LoopControl.leave_forTo_ok.mpr
      ⟨_, _, Store.lookup_eq_ok_iff.mpr counted, increased, rfl, rfl⟩

theorem Opens.asks (opens : s.Opens store control body first)
    (asked : control.Asks settings body first console k here now) :
    s.Asks settings store console k here now := by
  cases opens with
  | whileDo =>
    induction asked with
    | first entered => exact .whileFirst entered
    | next _ ran left entered ih =>
      cases left
      exact .whileNext ih ran entered
  | repeatUntil =>
    induction asked with
    | first => exact .repeatFirst
    | next _ ran left _ ih =>
      obtain ⟨rfl, fails⟩ := LoopControl.leave_repeatUntil_ok.mp left
      exact .repeatNext ih ran fails
  | doWhile =>
    induction asked with
    | first => exact .doFirst
    | next _ ran left _ ih =>
      obtain ⟨rfl, holds⟩ := LoopControl.leave_doWhile_ok.mp left
      exact .doNext ih ran holds
  | forTo started =>
    induction asked with
    | first entered =>
      obtain ⟨bound, bounded, within⟩ := LoopControl.enter_forTo_bind.mp entered
      exact .forFirst started bounded within
    | next _ ran left entered ih =>
      obtain ⟨current, increased, counted, added, rfl, _⟩ := LoopControl.leave_forTo_ok.mp left
      obtain ⟨bound, bounded, within⟩ := LoopControl.enter_forTo_bind.mp entered
      exact .forNext ih ran (Store.lookup_eq_ok_iff.mp counted) added bounded within

theorem Opens.unique {control' : LoopControl} {body' : Stmt} {first' : Store}
    (opens : s.Opens store control body first) (opens' : s.Opens store control' body' first') :
    control' = control ∧ body' = body ∧ first' = first := by
  cases opens with
  | whileDo | repeatUntil | doWhile =>
    cases opens'
    exact ⟨rfl, rfl, rfl⟩
  | forTo started =>
    cases opens' with
    | forTo started' =>
      rw [started] at started'
      cases started'
      exact ⟨rfl, rfl, rfl⟩

theorem Opens.asks_iff (opens : s.Opens store control body first) :
    s.Asks settings store console k here now ↔
      control.Asks settings body first console k here now := by
  constructor
  · intro asked
    obtain ⟨_, _, _, opens', asked⟩ := asked.opens
    obtain ⟨rfl, rfl, rfl⟩ := opens.unique opens'
    exact asked
  · exact opens.asks

end Stmt

end ImpLang
