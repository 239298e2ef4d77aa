import ImpLang.Console
import ImpLang.Store

/-!
# Outcomes

How an execution ends: with a final store, with a cause of failure, or not within the fuel it was
given. In the first two cases the console as it is then comes along, since output and input used up
stay so after a failure.
-/

namespace ImpLang

/-- How an execution ends. -/
inductive Outcome (ε : Type) where
  | done (store : Store) (console : Console)
  | failed (cause : ε) (console : Console)
  /-- More fuel is needed to tell. -/
  | outOfFuel
  deriving DecidableEq, Repr

namespace Outcome

variable {ε α : Type}

/-- Goes on from a final store. -/
@[inline] def andThen (outcome : Outcome ε) (next : Store → Console → Outcome ε) : Outcome ε :=
  match outcome with
  | .done store console => next store console
  | .failed cause console => .failed cause console
  | .outOfFuel => .outOfFuel

/-- Goes on with a result, or fails with its fault. -/
@[inline] def attempt (result : Except Fault α) (console : Console) (next : α → Outcome Fault) :
    Outcome Fault :=
  match result with
  | .ok value => next value
  | .error fault => .failed fault console

@[simp] theorem andThen_done (store : Store) (console : Console)
    (next : Store → Console → Outcome ε) :
    (done store console).andThen next = next store console := rfl

@[simp] theorem andThen_failed (cause : ε) (console : Console)
    (next : Store → Console → Outcome ε) :
    (failed cause console).andThen next = failed cause console := rfl

@[simp] theorem andThen_outOfFuel (next : Store → Console → Outcome ε) :
    (outOfFuel : Outcome ε).andThen next = outOfFuel := rfl

theorem done_ne_outOfFuel (store : Store) (console : Console) :
    (done store console : Outcome ε) ≠ outOfFuel := nofun

theorem failed_ne_outOfFuel (cause : ε) (console : Console) :
    failed cause console ≠ outOfFuel := nofun

/-- Steps that follow one another need no brackets. -/
theorem andThen_assoc (outcome : Outcome ε) (next last : Store → Console → Outcome ε) :
    (outcome.andThen next).andThen last =
      outcome.andThen fun store console => (next store console).andThen last := by
  cases outcome <;> rfl

@[simp] theorem attempt_ok (value : α) (console : Console) (next : α → Outcome Fault) :
    attempt (.ok value) console next = next value := rfl

@[simp] theorem attempt_error (fault : Fault) (console : Console) (next : α → Outcome Fault) :
    attempt (.error fault) console next = .failed fault console := rfl

end Outcome

end ImpLang
