import ImpLang.Exec

/-!
# Predicates and relations on outcomes

A predicate on stores and consoles is lifted to outcomes by `Outcome.All`, a relation between two
runs by `Outcome.Rel`. Both pass through `andThen` and `attempt`, and both have one rule for loops:
`iterate_all` is the invariant rule, `iterate_rel` runs two loops side by side. What is proved about
execution is then a matter of its forms of statement, unless two runs are compared that differ in
their number of rounds.
-/

namespace ImpLang

namespace Outcome

/-- What an outcome holds satisfies the predicate for its case. -/
inductive All (onDone : Store → Console → Prop) (onFailed : Fault → Console → Prop) :
    Outcome Fault → Prop
  | done {store : Store} {console : Console} (holds : onDone store console) :
      All onDone onFailed (.done store console)
  | failed {fault : Fault} {console : Console} (holds : onFailed fault console) :
      All onDone onFailed (.failed fault console)
  | outOfFuel : All onDone onFailed .outOfFuel

/-- Two outcomes end in the same way, and what they hold is related. -/
inductive Rel (onDone : Store → Console → Store → Console → Prop)
    (onFailed : Fault → Console → Fault → Console → Prop) : Outcome Fault → Outcome Fault → Prop
  | done {store store' : Store} {console console' : Console}
      (related : onDone store console store' console') :
      Rel onDone onFailed (.done store console) (.done store' console')
  | failed {fault fault' : Fault} {console console' : Console}
      (related : onFailed fault console fault' console') :
      Rel onDone onFailed (.failed fault console) (.failed fault' console')
  | outOfFuel : Rel onDone onFailed .outOfFuel .outOfFuel

section All

variable {onDone middle : Store → Console → Prop} {onFailed : Fault → Console → Prop}

theorem All.andThen {outcome : Outcome Fault} {next : Store → Console → Outcome Fault}
    (first : All middle onFailed outcome)
    (rest : ∀ store console, middle store console → All onDone onFailed (next store console)) :
    All onDone onFailed (outcome.andThen next) := by
  cases first with
  | done holds => exact rest _ _ holds
  | failed holds => exact .failed holds
  | outOfFuel => exact .outOfFuel

theorem All.mono {onFailed' : Fault → Console → Prop} {outcome : Outcome Fault}
    (all : All middle onFailed outcome)
    (weakerDone : ∀ store console, middle store console → onDone store console)
    (weakerFailed : ∀ fault console, onFailed fault console → onFailed' fault console) :
    All onDone onFailed' outcome := by
  cases all with
  | done holds => exact .done (weakerDone _ _ holds)
  | failed holds => exact .failed (weakerFailed _ _ holds)
  | outOfFuel => exact .outOfFuel

theorem All.and {onDone' : Store → Console → Prop} {onFailed' : Fault → Console → Prop}
    {outcome : Outcome Fault} (all : All onDone onFailed outcome)
    (all' : All onDone' onFailed' outcome) :
    All (fun store console => onDone store console ∧ onDone' store console)
      (fun fault console => onFailed fault console ∧ onFailed' fault console) outcome := by
  cases all with
  | done holds => cases all' with | done holds' => exact .done ⟨holds, holds'⟩
  | failed holds => cases all' with | failed holds' => exact .failed ⟨holds, holds'⟩
  | outOfFuel => exact .outOfFuel

theorem All.attempt {α : Type} {result : Except Fault α} {console : Console}
    {next : α → Outcome Fault} (fails : ∀ fault, result = .error fault → onFailed fault console)
    (rest : ∀ value, result = .ok value → All onDone onFailed (next value)) :
    All onDone onFailed (.attempt result console next) := by
  cases result with
  | error fault => exact .failed (fails fault rfl)
  | ok value => exact rest value rfl

end All

/-- Two results are both faults or both values, and related. -/
inductive Matched {α β : Type} (onError : Fault → Fault → Prop) (onOk : α → β → Prop) :
    Except Fault α → Except Fault β → Prop
  | error {fault fault' : Fault} (related : onError fault fault') :
      Matched onError onOk (.error fault) (.error fault')
  | ok {value : α} {value' : β} (related : onOk value value') :
      Matched onError onOk (.ok value) (.ok value')

theorem Matched.self {α : Type} {onError : Fault → Fault → Prop} (result : Except Fault α)
    (fails : ∀ fault, result = .error fault → onError fault fault) :
    Matched onError Eq result result := by
  cases result with
  | error fault => exact .error (fails fault rfl)
  | ok value => exact .ok rfl

theorem Matched.mono {α β : Type} {onError onError' : Fault → Fault → Prop} {onOk : α → β → Prop}
    {result : Except Fault α} {result' : Except Fault β}
    (related : Matched onError onOk result result')
    (weaker : ∀ fault fault', onError fault fault' → onError' fault fault') :
    Matched onError' onOk result result' := by
  cases related with
  | error related => exact .error (weaker _ _ related)
  | ok related => exact .ok related

theorem Matched.bind {α β γ δ : Type} {onError : Fault → Fault → Prop} {onFirst : α → β → Prop}
    {onOk : γ → δ → Prop} {first : Except Fault α} {first' : Except Fault β}
    {next : α → Except Fault γ} {next' : β → Except Fault δ}
    (begins : Matched onError onFirst first first')
    (rest : ∀ value value', onFirst value value' →
      Matched onError onOk (next value) (next' value')) :
    Matched onError onOk (first >>= next) (first' >>= next') := by
  cases begins with
  | error related => exact .error related
  | ok related => exact rest _ _ related

section Rel

variable {onDone middle : Store → Console → Store → Console → Prop}
  {onFailed : Fault → Console → Fault → Console → Prop}

theorem Rel.andThen {outcome outcome' : Outcome Fault}
    {next next' : Store → Console → Outcome Fault} (first : Rel middle onFailed outcome outcome')
    (rest : ∀ store console store' console', middle store console store' console' →
      Rel onDone onFailed (next store console) (next' store' console')) :
    Rel onDone onFailed (outcome.andThen next) (outcome'.andThen next') := by
  cases first with
  | done related => exact rest _ _ _ _ related
  | failed related => exact .failed related
  | outOfFuel => exact .outOfFuel

theorem Rel.attempt {α β : Type} {result : Except Fault α} {result' : Except Fault β}
    {console console' : Console} {next : α → Outcome Fault} {next' : β → Outcome Fault}
    {onOk : α → β → Prop}
    (tried : Matched (fun fault fault' => onFailed fault console fault' console') onOk
      result result')
    (rest : ∀ value value', onOk value value' → Rel onDone onFailed (next value) (next' value')) :
    Rel onDone onFailed (.attempt result console next) (.attempt result' console' next') := by
  cases tried with
  | error related => exact .failed related
  | ok related => exact rest _ _ related

/-- Both sides attempt the same. -/
theorem Rel.attempt_self {α : Type} {result : Except Fault α} {console console' : Console}
    {next next' : α → Outcome Fault}
    (fails : ∀ fault, onFailed fault console fault console')
    (rest : ∀ value, Rel onDone onFailed (next value) (next' value)) :
    Rel onDone onFailed (.attempt result console next) (.attempt result console' next') := by
  cases result with
  | error fault => exact .failed (fails fault)
  | ok value => exact rest value

theorem Rel.mono {onDone' : Store → Console → Store → Console → Prop}
    {onFailed' : Fault → Console → Fault → Console → Prop} {outcome outcome' : Outcome Fault}
    (related : Rel onDone onFailed outcome outcome')
    (weakerDone : ∀ store console store' console', onDone store console store' console' →
      onDone' store console store' console')
    (weakerFailed : ∀ fault console fault' console', onFailed fault console fault' console' →
      onFailed' fault console fault' console') : Rel onDone' onFailed' outcome outcome' := by
  cases related with
  | done related => exact .done (weakerDone _ _ _ _ related)
  | failed related => exact .failed (weakerFailed _ _ _ _ related)
  | outOfFuel => exact .outOfFuel

end Rel

end Outcome

namespace LoopControl

/-- A round once it is begun: the body, then the question whether there is another. -/
def round (control : LoopControl) (body : Store → Console → Outcome Fault) (store : Store)
    (console : Console) (next : Store → Bool → Console → Outcome Fault) : Outcome Fault :=
  (body store console).andThen fun store console =>
    .attempt (control.leave store) console fun (store, again) => next store again console

theorem iterate_succ (control : LoopControl) (limit : Option UInt64)
    (body : Store → Console → Outcome Fault) (fuel : Nat) (rounds : UInt64) (store : Store)
    (console : Console) :
    control.iterate limit body (fuel + 1) rounds store console =
      .attempt (control.enter store) console fun begins =>
        if begins then
          .attempt (beginRound limit rounds) console fun rounds =>
            control.round body store console fun store again console =>
              if again then control.iterate limit body fuel rounds store console
              else .done store (console.record (.loopFinished control.kind rounds))
        else .done store (console.record (.loopFinished control.kind rounds)) :=
  rfl

/-- The invariant rule. What holds before each question whether to begin a round, and gives what is
wanted wherever the loop can end, gives it of the whole loop. -/
theorem iterate_all {control : LoopControl} {limit : Option UInt64}
    {body : Store → Console → Outcome Fault} {onDone : Store → Console → Prop}
    {onFailed : Fault → Console → Prop} (inv : Store → Console → Prop)
    (enterFails : ∀ {store console fault}, inv store console →
      control.enter store = .error fault → onFailed fault console)
    (stops : ∀ {store console} rounds, inv store console → control.enter store = .ok false →
      onDone store (console.record (.loopFinished control.kind rounds)))
    (countFails : ∀ {store console rounds fault}, inv store console →
      control.enter store = .ok true → beginRound limit rounds = .error fault →
      onFailed fault console)
    (goesOn : ∀ {store console}, inv store console → control.enter store = .ok true →
      (body store console).All (fun store console =>
        (∀ fault, control.leave store = .error fault → onFailed fault console) ∧
        (∀ next, control.leave store = .ok (next, true) → inv next console) ∧
        ∀ next rounds, control.leave store = .ok (next, false) →
          onDone next (console.record (.loopFinished control.kind rounds))) onFailed)
    (fuel : Nat) (rounds : UInt64) {store : Store} {console : Console}
    (start : inv store console) :
    (control.iterate limit body fuel rounds store console).All onDone onFailed := by
  induction fuel generalizing rounds store console with
  | zero => exact .outOfFuel
  | succ fuel ih =>
    rw [iterate_succ]
    refine .attempt (fun fault failed => enterFails start failed) fun begins entered => ?_
    cases begins with
    | false => exact .done (stops rounds start entered)
    | true =>
      refine .attempt (fun fault failed => countFails start entered failed) fun counted _ => ?_
      refine (goesOn start entered).andThen fun after console left => ?_
      obtain ⟨leaveFails, continues, ends⟩ := left
      refine .attempt leaveFails fun result found => ?_
      obtain ⟨next, again⟩ := result
      cases again with
      | false => exact .done (ends next counted found)
      | true => exact ih counted (continues next found)

/-- Two loops side by side. Related stores and consoles get the same answer to each question, and
related rounds lead to related stores and consoles, so the loops end together. The counts of their
rounds may differ, and with them the limits. -/
theorem iterate_rel {control control' : LoopControl} {limit limit' : Option UInt64}
    {body body' : Store → Console → Outcome Fault} {counts : UInt64 → UInt64 → Prop}
    {states : Store → Console → Store → Console → Prop}
    {onFailed : Fault → Console → Fault → Console → Prop}
    (enter : ∀ {store console store' console'}, states store console store' console' →
      Outcome.Matched (fun fault fault' => onFailed fault console fault' console') Eq
        (control.enter store) (control'.enter store'))
    (count : ∀ {rounds rounds' store console store' console'}, counts rounds rounds' →
      states store console store' console' →
      Outcome.Matched (fun fault fault' => onFailed fault console fault' console') counts
        (beginRound limit rounds) (beginRound limit' rounds'))
    (go : ∀ {store console store' console' next next'}, states store console store' console' →
      (∀ again store console store' console', states store console store' console' →
        (next store again console).Rel states onFailed (next' store' again console')) →
      (control.round body store console next).Rel states onFailed
        (control'.round body' store' console' next'))
    (finish : ∀ {rounds rounds' store console store' console'}, counts rounds rounds' →
      states store console store' console' →
      states store (console.record (.loopFinished control.kind rounds))
        store' (console'.record (.loopFinished control'.kind rounds')))
    (fuel : Nat) {rounds rounds' : UInt64} {store store' : Store} {console console' : Console}
    (counted : counts rounds rounds') (start : states store console store' console') :
    (control.iterate limit body fuel rounds store console).Rel states onFailed
      (control'.iterate limit' body' fuel rounds' store' console') := by
  induction fuel generalizing rounds rounds' store store' console console' with
  | zero => exact .outOfFuel
  | succ fuel ih =>
    rw [iterate_succ, iterate_succ]
    refine .attempt (enter start) fun begins begins' same => ?_
    subst same
    cases begins with
    | false => exact .done (finish counted start)
    | true =>
      refine .attempt (count counted start) fun rounds rounds' counted => ?_
      refine go start fun again store console store' console' reached => ?_
      cases again with
      | false => exact .done (finish counted reached)
      | true => exact ih counted reached

end LoopControl

end ImpLang
