import ImpLang.Proofs.Effects
import ImpLang.Proofs.Ending
import ImpLang.Proofs.Failure

/-!
# Limits cut runs off

A limit on the rounds of loops leaves a run as it is or cuts it off, and then what was printed and
read up to that point is the beginning of what any larger limit lets happen (`exec_cutBy`). An
excess of rounds is always reported with the limit that was set (`exec_charges`), and the largest
limit is none at all, since counts stay at their greatest value (`beginRound_greatest`).
-/

namespace ImpLang

/-- All that is printed and read before this console is printed and read in the outcome. -/
def Outcome.After (console : Console) : Outcome Fault → Prop :=
  All (fun _ after => console.Precedes after) (fun _ after => console.Precedes after)

theorem Outcome.After.trans {console between : Console} {outcome : Outcome Fault}
    (first : console.Precedes between) (rest : outcome.After between) : outcome.After console :=
  rest.mono (fun _ _ later => first.trans later) (fun _ _ later => first.trans later)

theorem Outcome.After.precedes {console full : Console} {ending : Ending}
    (after : (ending.on full).After console) : console.Precedes full := by
  cases ending with
  | done => cases after with | done precedes => exact precedes
  | failed => cases after with | failed precedes => exact precedes

theorem LoopControl.iterate_after {control : LoopControl} {limit : Option UInt64}
    {body : Store → Console → Outcome Fault}
    (bodyAfter : ∀ store console, (body store console).After console) (fuel : Nat) (rounds : UInt64)
    (store : Store) (console : Console) :
    (control.iterate limit body fuel rounds store console).After console := by
  refine iterate_all (fun _ between => console.Precedes between) ?enterFails ?stops ?countFails
    ?goesOn fuel rounds (.refl console)
  case enterFails => exact fun sofar _ => sofar
  case stops => exact fun rounds sofar _ => sofar.trans (.record _ _)
  case countFails => exact fun sofar _ _ => sofar
  case goesOn =>
    intro store between sofar _
    refine (Outcome.After.trans sofar (bodyAfter store between)).mono ?_ fun _ _ later => later
    intro after later reached
    exact ⟨fun _ _ => reached, fun _ _ => reached, fun _ _ _ => reached.trans (.record _ _)⟩

theorem Stmt.exec_after (settings : Settings) (fuel : Nat) (s : Stmt) (store : Store)
    (console : Console) : (s.exec settings fuel store console).After console := by
  refine (exec_reached settings fuel s store console).mono ?_ ?_
  · intro after console effects
    exact effects.precedes
  · intro fault console reached
    obtain ⟨after, effects⟩ := reached
    exact effects.precedes

/-- What a limit makes of an outcome: it cuts the run off, or changes nothing. -/
inductive Outcome.CutBy (most : UInt64) : Outcome Fault → Outcome Fault → Prop
  | same (outcome : Outcome Fault) : CutBy most outcome outcome
  | cut {console : Console} {outcome : Outcome Fault} (goesOn : outcome.After console) :
      CutBy most (.failed (.budgetExceeded most) console) outcome

/-- A run that is cut off does not go on; the other one only adds to what is printed and read. -/
theorem Outcome.CutBy.andThen {most : UInt64} {outcome outcome' : Outcome Fault}
    {next next' : Store → Console → Outcome Fault} (first : CutBy most outcome outcome')
    (rest : ∀ store console, CutBy most (next store console) (next' store console))
    (goesOn : ∀ store console, (next' store console).After console) :
    CutBy most (outcome.andThen next) (outcome'.andThen next') := by
  cases first with
  | same =>
    cases outcome with
    | done store console => exact rest store console
    | failed fault console => exact .same _
    | outOfFuel => exact .same _
  | cut later =>
    refine .cut (later.andThen fun store console reached => ?_)
    exact (goesOn store console).trans reached

theorem Outcome.CutBy.attempt {α : Type} {most : UInt64} (result : Except Fault α)
    (console : Console) {next next' : α → Outcome Fault}
    (rest : ∀ value, CutBy most (next value) (next' value)) :
    CutBy most (Outcome.attempt result console next) (Outcome.attempt result console next') := by
  cases result with
  | error fault => exact .same _
  | ok value => exact rest value

namespace LoopControl

/-- Limits that are at least as large, or none. -/
def Wider (most : UInt64) (limit : Option UInt64) : Prop :=
  ∀ larger, limit = some larger → most ≤ larger

variable {most : UInt64} {limit : Option UInt64} {rounds counted : UInt64} {fault : Fault}

theorem beginRound_wider (wider : Wider most limit)
    (begun : beginRound (some most) rounds = .ok counted) :
    beginRound limit rounds = .ok counted := by
  rw [beginRound_eq_ok_iff] at begun ⊢
  obtain ⟨within, same⟩ := begun
  refine ⟨fun larger found => ?_, same⟩
  exact UInt64.le_trans (within most rfl) (wider larger found)

/-- Round by round, until the smaller limit is reached. -/
theorem iterate_cutBy (control : LoopControl) (wider : Wider most limit)
    {body body' : Store → Console → Outcome Fault}
    (bodyCut : ∀ store console, (body store console).CutBy most (body' store console))
    (bodyAfter : ∀ store console, (body' store console).After console) (fuel : Nat)
    (rounds : UInt64) (store : Store) (console : Console) :
    (control.iterate (some most) body fuel rounds store console).CutBy most
      (control.iterate limit body' fuel rounds store console) := by
  induction fuel generalizing rounds store console with
  | zero => exact .same _
  | succ fuel ih =>
    have after (rounds : UInt64) (store : Store) (console : Console) :
        (control.iterate limit body' fuel rounds store console).After console :=
      iterate_after bodyAfter fuel rounds store console
    have whole : (control.iterate limit body' (fuel + 1) rounds store console).After console :=
      iterate_after bodyAfter (fuel + 1) rounds store console
    rw [iterate_succ] at whole
    rw [iterate_succ, iterate_succ]
    cases entered : control.enter store with
    | error fault => exact .same _
    | ok begins =>
      cases begins with
      | false => exact .same _
      | true =>
        simp only [entered, Outcome.attempt_ok, if_true] at whole ⊢
        cases begun : beginRound (some most) rounds with
        | error fault =>
          -- One loop stops here, and whatever the other does comes after this console.
          obtain ⟨_, same, _, rfl⟩ := beginRound_eq_error_iff.mp begun
          cases same
          exact .cut whole
        | ok counted =>
          simp only [beginRound_wider wider begun, Outcome.attempt_ok, round]
          refine (bodyCut store console).andThen (fun left between => ?_) fun left between => ?_
          · refine .attempt (control.leave left) between fun result => ?_
            obtain ⟨next, again⟩ := result
            cases again with
            | false => exact .same _
            | true => exact ih counted next between
          · refine .attempt (fun fault _ => .refl between) fun result _ => ?_
            obtain ⟨next, again⟩ := result
            cases again with
            | false => exact .done (.record between _)
            | true => exact after counted next between

end LoopControl

namespace Stmt

/-- Two limits on the same run, the first of which may cut it off before the second does. -/
theorem exec_cutBy (prompt : String) {most : UInt64} {limit : Option UInt64}
    (wider : LoopControl.Wider most limit) (fuel : Nat) (s : Stmt) (store : Store)
    (console : Console) :
    (s.exec ⟨some most, prompt⟩ fuel store console).CutBy most
      (s.exec ⟨limit, prompt⟩ fuel store console) := by
  have after (s : Stmt) (store : Store) (console : Console) :
      (s.exec ⟨limit, prompt⟩ fuel store console).After console :=
    s.exec_after ⟨limit, prompt⟩ fuel store console
  induction s generalizing store console with
  | skip | assign | readNum | writeNum | writeStr => exact .same _
  | seq first rest firstCut restCut =>
    exact (firstCut store console).andThen restCut (after rest)
  | ifThenElse cond yes no yesCut noCut =>
    refine .attempt _ console fun holds => ?_
    cases holds with
    | false => exact noCut store console
    | true => exact yesCut store console
  | ifThen cond body bodyCut =>
    refine .attempt _ console fun holds => ?_
    cases holds with
    | false => exact .same _
    | true => exact bodyCut store console
  | whileDo cond body bodyCut | repeatUntil body cond bodyCut | doWhile body cond bodyCut =>
    exact LoopControl.iterate_cutBy _ wider bodyCut (after body) fuel 0 store console
  | forTo counter low high body bodyCut =>
    refine .attempt _ console fun start => ?_
    exact LoopControl.iterate_cutBy _ wider bodyCut (after body) fuel 0 _ console

end Stmt

/-! ## Only a limit is reported as one -/

/-- A failure by an excess of rounds is over this limit. -/
def Outcome.Charges (limit : Option UInt64) : Outcome Fault → Prop :=
  All (fun _ _ => True) (fun fault _ => ∀ most, fault = .budgetExceeded most → limit = some most)

/-- An excess of rounds is always reported with the limit that was set. -/
theorem Stmt.exec_charges (settings : Settings) (fuel : Nat) (s : Stmt) (store : Store)
    (console : Console) :
    (s.exec settings fuel store console).Charges settings.maxIterations := by
  refine (exec_justified settings fuel s store console).mono (fun _ _ _ => trivial) ?_
  rintro fault after justified most rfl
  exact justified

/-! ## The largest limit -/

/-- Limits that count alike make no difference to a loop. -/
theorem LoopControl.iterate_limit_congr {control : LoopControl} {limit limit' : Option UInt64}
    (same : ∀ rounds, beginRound limit rounds = beginRound limit' rounds)
    (body : Store → Console → Outcome Fault) (fuel : Nat) (rounds : UInt64) (store : Store)
    (console : Console) :
    control.iterate limit body fuel rounds store console =
      control.iterate limit' body fuel rounds store console := by
  induction fuel generalizing rounds store console with
  | zero => rfl
  | succ fuel ih => simp only [iterate_succ, same, ih]

/-- Nor do they to any run. -/
theorem Stmt.exec_limit_congr (prompt : String) {limit limit' : Option UInt64}
    (same : ∀ rounds, LoopControl.beginRound limit rounds = LoopControl.beginRound limit' rounds)
    (fuel : Nat) (s : Stmt) (store : Store) (console : Console) :
    s.exec ⟨limit, prompt⟩ fuel store console = s.exec ⟨limit', prompt⟩ fuel store console := by
  induction s generalizing store console with
  | skip | assign | readNum | writeNum | writeStr => rfl
  | seq first rest firstSame restSame => simp only [exec, firstSame, restSame]
  | ifThenElse cond yes no yesSame noSame => simp only [exec, yesSame, noSame]
  | ifThen cond body bodySame => simp only [exec, bodySame]
  | whileDo cond body bodySame | repeatUntil body cond bodySame | doWhile body cond bodySame
  | forTo counter low high body bodySame =>
    simp only [exec, bodySame, LoopControl.iterate_limit_congr same]

/-- No count exceeds the greatest number of 64 bits. -/
theorem LoopControl.beginRound_greatest (rounds : UInt64) :
    beginRound (some 18446744073709551615) rounds = beginRound none rounds := by
  have within : ¬ (18446744073709551615 : UInt64) < nextRound rounds := by
    rw [UInt64.lt_iff_toNat_lt]
    have bound := (nextRound rounds).toNat_lt
    have greatest : (18446744073709551615 : UInt64).toNat = 18446744073709551615 := rfl
    omega
  simp only [beginRound, if_neg within]

/-! ## What limits do -/

namespace Stmt

variable {prompt : String} {most : UInt64} {limit : Option UInt64} {s : Stmt} {store : Store}
  {console cut full : Console} {ending : Ending}

/-- A run that does not exceed its limit is the same under a wider one. -/
theorem EndsIn.wider (wider : LoopControl.Wider most limit) {outcome : Outcome Fault}
    (ends : s.EndsIn ⟨some most, prompt⟩ store console outcome)
    (kept : ∀ most cut, outcome ≠ .failed (.budgetExceeded most) cut) :
    s.EndsIn ⟨limit, prompt⟩ store console outcome := by
  obtain ⟨ended, fuel, reached⟩ := ends
  have cutBy := exec_cutBy prompt wider fuel s store console
  rw [reached] at cutBy
  generalize unfolded : s.exec ⟨limit, prompt⟩ fuel store console = other at cutBy
  cases cutBy with
  | same => exact ⟨ended, fuel, unfolded⟩
  | cut => exact absurd rfl (kept _ _)

/-- A run that exceeds its limit comes before the end of the same run under a wider one. -/
theorem EndsIn.cut_precedes (wider : LoopControl.Wider most limit)
    (exceeds : s.EndsIn ⟨some most, prompt⟩ store console (.failed (.budgetExceeded most) cut))
    (ends : s.EndsIn ⟨limit, prompt⟩ store console (ending.on full)) : cut.Precedes full := by
  obtain ⟨fuel, stays⟩ := exceeds.stays
  obtain ⟨fuel', stays'⟩ := ends.stays
  have cutBy := exec_cutBy prompt wider (max fuel fuel') s store console
  rw [stays _ (Nat.le_max_left fuel fuel'), stays' _ (Nat.le_max_right fuel fuel')] at cutBy
  generalize unfolded : ending.on full = other at cutBy
  cases cutBy with
  | same =>
    have same : ending.on full = (Ending.failed (.budgetExceeded most)).on cut := unfolded
    rw [(Ending.on_inj same).2]
    exact .refl cut
  | cut goesOn =>
    rw [← unfolded] at goesOn
    exact goesOn.precedes

theorem EndsIn.precedes {settings : Settings} (ending : Ending)
    (ends : s.EndsIn settings store console (ending.on full)) : console.Precedes full := by
  obtain ⟨_, fuel, reached⟩ := ends
  have after := exec_after settings fuel s store console
  rw [reached] at after
  exact after.precedes

/-- A limit leaves runs as they are or cuts them off. A run that does not exceed it is the same,
with its events, under larger limits and under none; one that does reports the limit, and has
printed and read the beginning of what larger limits let it print and read; the largest limit is
none. -/
theorem exec_limit (prompt : String) (s : Stmt) (store : Store) (console : Console)
    {n m : UInt64} (wider : n ≤ m) :
    (∀ outcome, s.EndsIn { maxIterations := some n, prompt := prompt } store console outcome →
      (∀ most cut, outcome ≠ .failed (.budgetExceeded most) cut) →
      s.EndsIn { maxIterations := some m, prompt := prompt } store console outcome ∧
      s.EndsIn { maxIterations := none, prompt := prompt } store console outcome) ∧
    (∀ most cut, s.EndsIn { maxIterations := some n, prompt := prompt } store console
        (.failed (.budgetExceeded most) cut) →
      most = n ∧ ∀ limit, limit = some m ∨ limit = none → ∀ (ending : Ending) (full : Console),
        s.EndsIn { maxIterations := limit, prompt := prompt } store console (ending.on full) →
        (∃ shown more, cut.printed = console.printed ++ shown ∧
          full.printed = console.printed ++ (shown ++ more)) ∧
        ∃ consumed more, console.source.Yields consumed cut.source ∧
          console.source.Yields (consumed ++ more) full.source) ∧
    ∀ fuel, s.exec { maxIterations := some 18446744073709551615, prompt := prompt } fuel store
        console =
      s.exec { maxIterations := none, prompt := prompt } fuel store console := by
  have widerSome : LoopControl.Wider n (some m) := by
    intro larger same
    cases same
    exact wider
  have widerNone : LoopControl.Wider n none := nofun
  refine ⟨fun outcome ends kept => ?_, fun most cut exceeds => ?_, fun fuel => ?_⟩
  · exact ⟨ends.wider widerSome kept, ends.wider widerNone kept⟩
  · have charged : most = n := by
      obtain ⟨_, fuel, reached⟩ := exceeds
      have charges := exec_charges ⟨some n, prompt⟩ fuel s store console
      rw [reached] at charges
      cases charges with
      | failed charged => exact (Option.some.inj (charged most rfl)).symm
    refine ⟨charged, fun limit either ending full ends => ?_⟩
    rw [charged] at exceeds
    have widerLimit : LoopControl.Wider n limit := by
      rcases either with rfl | rfl
      · exact widerSome
      · exact widerNone
    obtain ⟨_, ⟨shown, printed⟩, ⟨consumed, yields⟩⟩ :=
      EndsIn.precedes (.failed (.budgetExceeded n)) exceeds
    obtain ⟨_, ⟨more, printedMore⟩, ⟨consumedMore, yieldsMore⟩⟩ :=
      exceeds.cut_precedes widerLimit ends
    refine ⟨⟨shown, more, printed, ?_⟩, consumed, consumedMore, yields, yields.append yieldsMore⟩
    rw [printedMore, printed, Array.append_assoc]
  · exact exec_limit_congr prompt LoopControl.beginRound_greatest fuel s store console

/-- Of two rounds a limit of one lets the first happen. -/
theorem exec_limit_two_rounds :
    (1 : UInt64) ≤ 2 ∧ ∃ cut, (Stmt.forTo ⟨"i"⟩ (.int 1) (.int 2) (.writeStr "x")).EndsIn
        { maxIterations := some 1 } .empty { source := .script ["7"], sink := .buffer }
        (.failed (.budgetExceeded 1) cut) ∧ cut.printed = #[.written "x"] ∧
      ∀ limit, limit = some 2 ∨ limit = none → ∀ (ending : Ending) (full : Console),
        (Stmt.forTo ⟨"i"⟩ (.int 1) (.int 2) (.writeStr "x")).EndsIn
          { maxIterations := limit } .empty { source := .script ["7"], sink := .buffer }
          (ending.on full) →
        ∃ more, full.printed = #[.written "x"] ++ more := by
  have exceeds : (Stmt.forTo ⟨"i"⟩ (.int 1) (.int 2) (.writeStr "x")).EndsIn
      { maxIterations := some 1 } .empty { source := .script ["7"], sink := .buffer }
      (.failed (.budgetExceeded 1)
        { source := .script ["7"], sink := .buffer, printed := #[.written "x"] }) :=
    ⟨nofun, 2, by decide +kernel⟩
  refine ⟨by decide, _, exceeds, rfl, fun limit either ending full ends => ?_⟩
  obtain ⟨⟨shown, more, printed, printedMore⟩, _⟩ :=
    ((exec_limit defaultPrompt _ _ _ (by decide : (1 : UInt64) ≤ 2)).2.1 1 _ exceeds).2 limit either
      ending full ends
  refine ⟨more, ?_⟩
  rw [printedMore, ← Array.append_assoc, ← printed]

end Stmt

end ImpLang
