import ImpLang.Loop
import ImpLang.Reading
import ImpLang.Stmt

/-!
# Execution of statements and programs

A statement takes a store and a console to an outcome. Fuel bounds the rounds of each single loop
and nothing else, so execution is a recursion on the statement; `exec_mono` says that an outcome
reached with some fuel is reached with any more. Reading is a loop over lines (`exec_readNum`),
which the input itself bounds, and a sequence is a walk down its right spine (`exec_eq_spine`). A
program starts with its declared variables at zero. Its run is framed by events, and a failure is
reported with a note that names the program.
-/

namespace ImpLang

/-- The choices under which statements run. -/
structure Settings where
  /-- The most rounds that one execution of a loop may have. -/
  maxIterations : Option UInt64 := none
  /-- Printed after each line that is no number. -/
  prompt : String := defaultPrompt
  deriving DecidableEq, Repr

namespace Stmt

def exec (settings : Settings) (fuel : Nat) : Stmt → Store → Console → Outcome Fault
  | .skip, store, console => .done store console
  | .assign target value, store, console =>
    .attempt (value.evalInt store (.assignment target)) console fun n =>
      .done (store.bind target n) (console.record (.assigned target n))
  | .seq first rest, store, console =>
    (first.exec settings fuel store console).andThen fun store console =>
      rest.exec settings fuel store console
  | .ifThenElse cond yes no, store, console =>
    .attempt (cond.evalBool store (.statement .ifThenElse)) console fun holds =>
      if holds then yes.exec settings fuel store console
      else no.exec settings fuel store console
  | .ifThen cond body, store, console =>
    .attempt (cond.evalBool store (.statement .ifThen)) console fun holds =>
      if holds then body.exec settings fuel store console else .done store console
  | .whileDo cond body, store, console =>
    (LoopControl.whileDo cond).iterate settings.maxIterations
      (fun store console => body.exec settings fuel store console) fuel 0 store console
  | .repeatUntil body cond, store, console =>
    (LoopControl.repeatUntil cond).iterate settings.maxIterations
      (fun store console => body.exec settings fuel store console) fuel 0 store console
  | .doWhile body cond, store, console =>
    (LoopControl.doWhile cond).iterate settings.maxIterations
      (fun store console => body.exec settings fuel store console) fuel 0 store console
  | .forTo counter low high body, store, console =>
    .attempt (low.evalInt store (.statement .forTo)) console fun start =>
      (LoopControl.forTo counter high).iterate settings.maxIterations
        (fun store console => body.exec settings fuel store console) fuel 0
        (store.bind counter start) console
  | .readNum target, store, console =>
    match readNumber settings.prompt target console with
    | (some n, console) => .done (store.bind target n) console
    | (none, console) => .failed (.inputClosed target) console
  | .writeNum value, store, console =>
    .attempt (value.evalInt store (.statement .writeNum)) console fun n =>
      .done store (console.print (.written (Numeral.render n.toInt)))
  | .writeStr text, store, console => .done store (console.print (.written text))

/-- Running parts one after another from where others have come: not at all if those failed. -/
theorem foldl_andThen (run : Stmt → Store → Console → Outcome Fault) (parts : List Stmt)
    (outcome : Outcome Fault) :
    parts.foldl (fun reached part => reached.andThen (run part)) outcome =
      outcome.andThen fun store console =>
        parts.foldl (fun reached part => reached.andThen (run part)) (.done store console) := by
  induction parts generalizing outcome with
  | nil => cases outcome <;> rfl
  | cons part rest ih =>
    simp only [List.foldl_cons, Outcome.andThen_done]
    rw [ih, Outcome.andThen_assoc]
    congr 1
    funext store console
    exact (ih (run part store console)).symm

/-- A sequence can be run by a walk down its right spine, one part after another. -/
theorem exec_eq_spine (settings : Settings) (fuel : Nat) (s : Stmt) (store : Store)
    (console : Console) :
    s.exec settings fuel store console =
      s.spine.foldl (fun reached part => reached.andThen (part.exec settings fuel))
        (.done store console) := by
  induction s generalizing store console with
  | seq first rest _ restWalked =>
    rw [spine, List.foldl_cons, Outcome.andThen_done, foldl_andThen, exec]
    congr 1
    funext store console
    exact restWalked store console
  | _ => rfl

/-- A statement that has ended ends in the same way with more fuel. -/
theorem exec_mono (settings : Settings) {fuel more : Nat} (enough : fuel ≤ more) (s : Stmt)
    (store : Store) (console : Console)
    (ended : s.exec settings fuel store console ≠ .outOfFuel) :
    s.exec settings more store console = s.exec settings fuel store console := by
  induction s generalizing store console with
  | skip | assign | readNum | writeNum | writeStr => rfl
  | seq first rest firstMono restMono =>
    simp only [exec] at ended ⊢
    have firstEnded : first.exec settings fuel store console ≠ .outOfFuel := by
      intro starved
      simp [starved] at ended
    rw [firstMono store console firstEnded]
    cases ran : first.exec settings fuel store console with
    | outOfFuel => rfl
    | failed fault console => rfl
    | done store console =>
      simp only [ran, Outcome.andThen_done] at ended ⊢
      exact restMono store console ended
  | ifThenElse cond yes no yesMono noMono =>
    simp only [exec] at ended ⊢
    cases tested : cond.evalBool store (.statement .ifThenElse) with
    | error fault => rfl
    | ok holds =>
      cases holds with
      | false =>
        simp only [tested, Outcome.attempt_ok, Bool.false_eq_true, if_false] at ended ⊢
        exact noMono store console ended
      | true =>
        simp only [tested, Outcome.attempt_ok, if_true] at ended ⊢
        exact yesMono store console ended
  | ifThen cond body bodyMono =>
    simp only [exec] at ended ⊢
    cases tested : cond.evalBool store (.statement .ifThen) with
    | error fault => rfl
    | ok holds =>
      cases holds with
      | false => rfl
      | true =>
        simp only [tested, Outcome.attempt_ok, if_true] at ended ⊢
        exact bodyMono store console ended
  | whileDo cond body bodyMono | repeatUntil body cond bodyMono | doWhile body cond bodyMono =>
    exact LoopControl.iterate_mono _ _ bodyMono enough _ _ _ ended
  | forTo counter low high body bodyMono =>
    simp only [exec] at ended ⊢
    cases started : low.evalInt store (.statement .forTo) with
    | error fault => rfl
    | ok start =>
      simp only [started, Outcome.attempt_ok] at ended ⊢
      exact LoopControl.iterate_mono _ _ bodyMono enough _ _ _ ended

/-- Reading takes one line, and goes on with the rest of the input if it is no number. -/
theorem exec_readNum (settings : Settings) (fuel : Nat) (target : Name) (store : Store)
    (console : Console) :
    (Stmt.readNum target).exec settings fuel store console =
      match console.source.next? with
      | none => .failed (.inputClosed target) console.starve
      | some (line, rest) =>
        match Numeral.signed (Text.trim line) with
        | .ok n =>
          .done (store.bind target n) (({ console with source := rest }).record (.read target n))
        | .error defect =>
          (Stmt.readNum target).exec settings fuel store
            (({ console with source := rest }).refuse settings.prompt defect (Text.trim line)) := by
  simp only [exec]
  rw [readNumber_eq, Console.readLine?]
  cases console.source.next? with
  | none => rfl
  | some found =>
    obtain ⟨line, rest⟩ := found
    cases number : Numeral.signed (Text.trim line) with
    | ok n => simp only [number]
    | error defect => simp only [number]

end Stmt

namespace Program

def note (program : Program) : String :=
  "in program '" ++ program.name ++ "'"

def run (settings : Settings) (fuel : Nat) (program : Program) (console : Console) :
    Outcome Report :=
  let console := console.record (.started program.name program.vars.length)
  match program.body.exec settings fuel (Store.initial program.vars) console with
  | .done store console => .done store (console.record (.finished store.size))
  | .failed fault console =>
    .failed (fault.report.withNote program.note) (console.record (.failed fault))
  | .outOfFuel => .outOfFuel

end Program

end ImpLang
