import ImpLang.Expr.Eval
import ImpLang.Outcome

/-!
# Loops

All loops go round in the same way and differ in their control: what is asked before a round, and
what is done and asked after it. A limit, where there is one, holds for each execution of a loop by
itself. Rounds are counted in 64 bits, and the count stays at its greatest value once it is there.
-/

namespace ImpLang

theorem bind_eq_ok {α β : Type} {first : Except Fault α} {next : α → Except Fault β} {result : β} :
    (first >>= next) = .ok result ↔ ∃ value, first = .ok value ∧ next value = .ok result := by
  cases first <;> simp [bind, Except.bind]

theorem bind_eq_error {α β : Type} {first : Except Fault α} {next : α → Except Fault β}
    {fault : Fault} :
    (first >>= next) = .error fault ↔
      first = .error fault ∨ ∃ value, first = .ok value ∧ next value = .error fault := by
  cases first <;> simp [bind, Except.bind]

/-- What makes a loop go round. -/
structure LoopControl where
  kind : LoopKind
  /-- Asked before each round: is there one? -/
  enter : Store → Except Fault Bool
  /-- Asked after each round: with which store, and is there another? -/
  leave : Store → Except Fault (Store × Bool)

namespace LoopControl

/-- Tests before each round. -/
def whileDo (cond : Expr) : LoopControl where
  kind := .whileDo
  enter store := cond.evalBool store (.statement .whileDo)
  leave store := .ok (store, true)

/-- Tests after each round, and stops once the condition holds. -/
def repeatUntil (cond : Expr) : LoopControl where
  kind := .repeatUntil
  enter _ := .ok true
  leave store := do
    let stop ← cond.evalBool store (.statement .repeatUntil)
    return (store, !stop)

/-- Tests after each round, and goes on while the condition holds. -/
def doWhile (cond : Expr) : LoopControl where
  kind := .doWhile
  enter _ := .ok true
  leave store := do
    let again ← cond.evalBool store (.statement .doWhile)
    return (store, again)

/-- Compares the counter with the bound before each round, and adds one to it after. The body may
change both. -/
def forTo (counter : Name) (high : Expr) : LoopControl where
  kind := .forTo
  enter store := do
    let current ← store.lookup counter
    let bound ← high.evalInt store (.statement .forTo)
    return decide (current ≤ bound)
  leave store := do
    let current ← store.lookup counter
    let next ← ArithOp.add.apply current 1
    return (store.bind counter next, true)

/-! ## The answers of the controls -/

section Answers

variable {cond high : Expr} {counter : Name} {store next : Store} {again : Bool} {fault : Fault}

theorem leave_repeatUntil_ok :
    (repeatUntil cond).leave store = .ok (next, again) ↔
      next = store ∧ cond.evalBool store (.statement .repeatUntil) = .ok (!again) := by
  simp only [repeatUntil, bind_eq_ok, pure, Except.pure, Except.ok.injEq, Prod.mk.injEq]
  constructor
  · rintro ⟨stop, tested, same, answer⟩
    exact ⟨same.symm, by rw [tested, ← answer, Bool.not_not]⟩
  · rintro ⟨same, tested⟩
    exact ⟨!again, tested, same.symm, Bool.not_not again⟩

theorem leave_repeatUntil_error :
    (repeatUntil cond).leave store = .error fault ↔
      cond.evalBool store (.statement .repeatUntil) = .error fault := by
  simp [repeatUntil, bind_eq_error, pure, Except.pure]

theorem leave_doWhile_ok :
    (doWhile cond).leave store = .ok (next, again) ↔
      next = store ∧ cond.evalBool store (.statement .doWhile) = .ok again := by
  simp only [doWhile, bind_eq_ok, pure, Except.pure, Except.ok.injEq, Prod.mk.injEq]
  constructor
  · rintro ⟨answer, tested, same, rfl⟩
    exact ⟨same.symm, tested⟩
  · rintro ⟨same, tested⟩
    exact ⟨again, tested, same.symm, rfl⟩

theorem leave_doWhile_error :
    (doWhile cond).leave store = .error fault ↔
      cond.evalBool store (.statement .doWhile) = .error fault := by
  simp [doWhile, bind_eq_error, pure, Except.pure]

theorem enter_forTo_ok {begins : Bool} :
    (forTo counter high).enter store = .ok begins ↔
      ∃ current bound, store.lookup counter = .ok current ∧
        high.evalInt store (.statement .forTo) = .ok bound ∧ decide (current ≤ bound) = begins := by
  simp [forTo, bind_eq_ok, pure, Except.pure]

theorem enter_forTo_error :
    (forTo counter high).enter store = .error fault ↔
      store.lookup counter = .error fault ∨
        ∃ current, store.lookup counter = .ok current ∧
          high.evalInt store (.statement .forTo) = .error fault := by
  simp [forTo, bind_eq_error, pure, Except.pure]

theorem leave_forTo_ok :
    (forTo counter high).leave store = .ok (next, again) ↔
      ∃ current increased, store.lookup counter = .ok current ∧
        ArithOp.add.apply current 1 = .ok increased ∧
        store.bind counter increased = next ∧ true = again := by
  simp [forTo, bind_eq_ok, pure, Except.pure]

theorem leave_forTo_error :
    (forTo counter high).leave store = .error fault ↔
      store.lookup counter = .error fault ∨
        ∃ current, store.lookup counter = .ok current ∧
          ArithOp.add.apply current 1 = .error fault := by
  simp [forTo, bind_eq_error, pure, Except.pure]

end Answers

/-- One round more, as far as 64 bits go. -/
def nextRound (rounds : UInt64) : UInt64 :=
  if rounds.toNat + 1 < UInt64.size then rounds + 1 else rounds

/-- Counts one more round, which the limit has to allow. -/
def beginRound (limit : Option UInt64) (rounds : UInt64) : Except Fault UInt64 :=
  match limit with
  | some most =>
    if most < nextRound rounds then .error (.budgetExceeded most) else .ok (nextRound rounds)
  | none => .ok (nextRound rounds)

section Counting

variable {limit : Option UInt64} {rounds counted : UInt64} {fault : Fault}

theorem beginRound_eq_ok_iff :
    beginRound limit rounds = .ok counted ↔
      (∀ most, limit = some most → nextRound rounds ≤ most) ∧ nextRound rounds = counted := by
  cases limit with
  | none => simp [beginRound]
  | some most =>
    by_cases beyond : most < nextRound rounds
    · have above : ¬ nextRound rounds ≤ most := UInt64.not_le.mpr beyond
      simp [beginRound, beyond, above]
    · have within : nextRound rounds ≤ most := UInt64.not_lt.mp beyond
      simp [beginRound, beyond, within]

theorem beginRound_eq_error_iff :
    beginRound limit rounds = .error fault ↔
      ∃ most, limit = some most ∧ most < nextRound rounds ∧ .budgetExceeded most = fault := by
  cases limit with
  | none => simp [beginRound]
  | some most =>
    by_cases beyond : most < nextRound rounds
    · simp [beginRound, beyond]
    · simp [beginRound, beyond]

end Counting

/-- Runs a loop from its next round on, after so many rounds. Fuel bounds the rounds to come. -/
def iterate (control : LoopControl) (limit : Option UInt64)
    (body : Store → Console → Outcome Fault) :
    Nat → UInt64 → Store → Console → Outcome Fault
  | 0, _, _, _ => .outOfFuel
  | fuel + 1, rounds, store, console =>
    .attempt (control.enter store) console fun begins =>
      if begins then
        .attempt (beginRound limit rounds) console fun rounds =>
          (body store console).andThen fun store console =>
            .attempt (control.leave store) console fun (store, again) =>
              if again then iterate control limit body fuel rounds store console
              else .done store (console.record (.loopFinished control.kind rounds))
      else .done store (console.record (.loopFinished control.kind rounds))

/-- A loop that has ended ends in the same way with more fuel, for itself and for its body. -/
theorem iterate_mono (control : LoopControl) (limit : Option UInt64)
    {body stronger : Store → Console → Outcome Fault}
    (agrees : ∀ store console, body store console ≠ .outOfFuel →
      stronger store console = body store console)
    {fuel more : Nat} (enough : fuel ≤ more) (rounds : UInt64) (store : Store) (console : Console)
    (ended : control.iterate limit body fuel rounds store console ≠ .outOfFuel) :
    control.iterate limit stronger more rounds store console =
      control.iterate limit body fuel rounds store console := by
  induction fuel generalizing more rounds store console with
  | zero => exact absurd rfl ended
  | succ fuel ih =>
    obtain ⟨more, rfl⟩ : ∃ k, more = k + 1 := ⟨more - 1, by omega⟩
    simp only [iterate] at ended ⊢
    cases entered : control.enter store with
    | error fault => rfl
    | ok begins =>
      cases begins with
      | false => rfl
      | true =>
        simp only [entered, Outcome.attempt_ok, if_true] at ended ⊢
        cases counted : beginRound limit rounds with
        | error fault => rfl
        | ok rounds =>
          simp only [counted, Outcome.attempt_ok] at ended ⊢
          have bodyEnded : body store console ≠ .outOfFuel := by
            intro starved
            simp [starved] at ended
          rw [agrees store console bodyEnded]
          cases ran : body store console with
          | outOfFuel => exact absurd ran bodyEnded
          | failed fault console => rfl
          | done store console =>
            simp only [ran, Outcome.andThen_done] at ended ⊢
            cases left : control.leave store with
            | error fault => rfl
            | ok result =>
              obtain ⟨store, again⟩ := result
              cases again with
              | false => rfl
              | true =>
                simp only [left, Outcome.attempt_ok, if_true] at ended ⊢
                exact ih (by omega) rounds store console ended

end LoopControl

end ImpLang
