import ImpLang.Proofs.Mirror

/-!
# Statements that agree

Two statements agree if neither ends, or both end in the same store, or both fail, after the same
output and with the same input left. What they put on record may differ: no statement looks at the
events, since consoles that differ in nothing else mirror each other (`exec_alike`).
-/

namespace ImpLang

/-- Two consoles that differ at most in the events left on them. -/
structure Console.Alike (console console' : Console) : Prop where
  source : console.source = console'.source
  sink : console.sink = console'.sink
  printed : console.printed = console'.printed

namespace Console.Alike

variable {console console' : Console}

theorem refl (console : Console) : console.Alike console :=
  ⟨rfl, rfl, rfl⟩

theorem symm (alike : console.Alike console') : console'.Alike console :=
  ⟨alike.source.symm, alike.sink.symm, alike.printed.symm⟩

theorem trans {last : Console} (first : console.Alike console') (second : console'.Alike last) :
    console.Alike last :=
  ⟨first.source.trans second.source, first.sink.trans second.sink,
    first.printed.trans second.printed⟩

theorem print (alike : console.Alike console') (line : Line) :
    (console.print line).Alike (console'.print line) :=
  ⟨alike.source, alike.sink, congrArg (·.push line) alike.printed⟩

theorem record (alike : console.Alike console') (event event' : Event) :
    (console.record event).Alike (console'.record event') :=
  ⟨alike.source, alike.sink, alike.printed⟩

theorem starve (alike : console.Alike console') : console.starve.Alike console'.starve :=
  ⟨alike.source, alike.sink, alike.printed⟩

/-- An event on one side only. -/
theorem record_right (alike : console.Alike console') (event : Event) :
    console.Alike (console'.record event) :=
  ⟨alike.source, alike.sink, alike.printed⟩

end Console.Alike

/-- Alike consoles offer the same lines. -/
theorem Console.alike_mirror (prompt : String) :
    Mirror prompt prompt Alike fun _ _ _ => False where
  record := fun event _ alike => alike.record event event
  write := fun text alike => alike.print (.written text)
  ask := fun alike => alike.print (.prompt prompt)
  offers := by
    intro console console' alike
    cases taken : console.source.next? with
    | none => exact .closed taken (alike.source ▸ taken) alike.starve
    | some found =>
      obtain ⟨text, rest⟩ := found
      exact .line taken (alike.source ▸ taken) ⟨rfl, alike.sink, alike.printed⟩

/-- Two outcomes that differ at most in events and in the causes of failure. -/
def Outcome.Agree (causes : Fault → Fault → Prop) : Outcome Fault → Outcome Fault → Prop :=
  Rel (fun store console store' console' => store = store' ∧ console.Alike console')
    (fun fault console fault' console' => causes fault fault' ∧ console.Alike console')

theorem Outcome.Agree.outOfFuel_iff {causes : Fault → Fault → Prop}
    {outcome outcome' : Outcome Fault}
    (agree : outcome.Agree causes outcome') : outcome = .outOfFuel ↔ outcome' = .outOfFuel := by
  cases agree <;> simp

theorem Outcome.Agree.weaken {causes : Fault → Fault → Prop} {outcome outcome' : Outcome Fault}
    (agree : outcome.Agree Eq outcome') (same : ∀ fault, causes fault fault) :
    outcome.Agree causes outcome' := by
  refine agree.mono (fun _ _ _ _ related => related) fun fault _ fault' _ related => ?_
  obtain ⟨rfl, alike⟩ := related
  exact ⟨same fault, alike⟩

/-- Two loops that ask the same questions do the same, if their body does not look at the events.
Nor does it matter what their counts are, as long as all the limit makes of one it makes of the
other. -/
theorem LoopControl.iterate_alike {control control' : LoopControl} {limit : Option UInt64}
    {body : Store → Console → Outcome Fault} (counts : UInt64 → UInt64 → Prop)
    (enters : ∀ store, control.enter store = control'.enter store)
    (leaves : ∀ store, control.leave store = control'.leave store)
    (count : ∀ rounds rounds', counts rounds rounds' →
      Outcome.Matched Eq counts (beginRound limit rounds) (beginRound limit rounds'))
    (insensitive : ∀ store console console', console.Alike console' →
      (body store console).Agree Eq (body store console'))
    (fuel : Nat) {rounds rounds' : UInt64} (counted : counts rounds rounds') (store : Store)
    {console console' : Console} (alike : console.Alike console') :
    (control.iterate limit body fuel rounds store console).Agree Eq
      (control'.iterate limit body fuel rounds' store console') := by
  refine iterate_rel ?enter ?count ?go ?finish fuel counted ⟨rfl, alike⟩
  case enter =>
    intro store console store' console' related
    obtain ⟨rfl, alike⟩ := related
    rw [enters]
    exact .self _ fun fault _ => ⟨rfl, alike⟩
  case count =>
    intro rounds rounds' store console store' console' counted related
    exact (count rounds rounds' counted).mono fun fault fault' same => ⟨same, related.2⟩
  case go =>
    intro store console store' console' next next' related nextAlike
    obtain ⟨rfl, alike⟩ := related
    refine .andThen (insensitive store console console' alike) ?_
    intro after console after' console' related
    obtain ⟨rfl, alike⟩ := related
    rw [leaves]
    refine .attempt_self (fun fault => ⟨rfl, alike⟩) fun result => ?_
    exact nextAlike result.2 result.1 console result.1 console' ⟨rfl, alike⟩
  case finish =>
    intro rounds rounds' store console store' console' _ related
    exact ⟨related.1, related.2.record _ _⟩

theorem LoopControl.beginRound_alike (limit : Option UInt64) (rounds rounds' : UInt64)
    (same : rounds = rounds') :
    Outcome.Matched Eq Eq (beginRound limit rounds) (beginRound limit rounds') := by
  rw [same]
  exact .self _ fun _ _ => rfl

namespace Stmt

/-- No statement looks at the events. -/
theorem exec_alike (settings : Settings) (fuel : Nat) (s : Stmt) (store : Store)
    {console console' : Console} (alike : console.Alike console') :
    (s.exec settings fuel store console).Agree Eq (s.exec settings fuel store console') :=
  (s.exec_mirrors (Console.alike_mirror settings.prompt) settings.maxIterations fuel store
    alike).rel

/-- Neither of two statements ends, or both end in outcomes that differ at most in events and, where
they are failures, in what is reported of the cause. -/
def Agree (causes : Diagnostic → Diagnostic → Prop) (settings : Settings) (first second : Stmt)
    (store : Store) (console : Console) : Prop :=
  (first.Diverges settings store console ∧ second.Diverges settings store console) ∨
    ∃ outcome outcome', first.EndsIn settings store console outcome ∧
      second.EndsIn settings store console outcome' ∧
      outcome.Agree (fun fault fault' => causes fault.diagnostic fault'.diagnostic) outcome'

variable {causes : Diagnostic → Diagnostic → Prop} {settings : Settings} {first second : Stmt}
  {store : Store} {console : Console}

/-- It is enough to look from one side, once it is known that the other ends no more often. -/
theorem agree_of_endsIn
    (agree : ∀ outcome, first.EndsIn settings store console outcome →
      ∃ outcome', second.EndsIn settings store console outcome' ∧
        outcome.Agree (fun fault fault' => causes fault.diagnostic fault'.diagnostic) outcome')
    (back : ∀ outcome, second.EndsIn settings store console outcome →
      ¬ first.Diverges settings store console) :
    first.Agree causes settings second store console := by
  by_cases diverges : first.Diverges settings store console
  · refine Or.inl ⟨diverges, Classical.byContradiction fun ended => ?_⟩
    obtain ⟨outcome, ends⟩ := not_diverges_iff.mp ended
    exact back outcome ends diverges
  · obtain ⟨outcome, ends⟩ := not_diverges_iff.mp diverges
    obtain ⟨outcome', ends', same⟩ := agree outcome ends
    exact Or.inr ⟨outcome, outcome', ends, ends', same⟩

/-- Statements that agree whatever fuel they are given agree. No fuel at all is left out, since one
of them may need some before it starts. -/
theorem agree_of_exec
    (agree : ∀ fuel, (first.exec settings (fuel + 1) store console).Agree
      (fun fault fault' => causes fault.diagnostic fault'.diagnostic)
      (second.exec settings (fuel + 1) store console)) :
    first.Agree causes settings second store console := by
  refine agree_of_endsIn (fun outcome ends => ?_) fun outcome ends diverges => ?_
  · obtain ⟨fuel, stays⟩ := ends.stays
    have both := agree fuel
    rw [stays (fuel + 1) (Nat.le_succ fuel)] at both
    exact ⟨_, ⟨mt both.outOfFuel_iff.mpr ends.1, fuel + 1, rfl⟩, both⟩
  · obtain ⟨fuel, stays⟩ := ends.stays
    have starved := (agree fuel).outOfFuel_iff.mp (diverges (fuel + 1))
    rw [stays (fuel + 1) (Nat.le_succ fuel)] at starved
    exact ends.1 starved

end Stmt

end ImpLang
