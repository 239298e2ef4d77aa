import ImpLang.Proofs.Ending

/-!
# Limited runs end

A limit on the rounds of loops, unless it is the greatest count, makes every run end. The limit less
the rounds so far goes down with each round of a loop, and bodies end by induction on the statement;
reading ends by itself, since there are only so many lines.
-/

namespace ImpLang

namespace LoopControl

variable {control : LoopControl} {settings : Settings} {body : Stmt} {rounds counted : UInt64}
  {store : Store} {console : Console}

theorem EndsIn.countFails {fault : Fault} (entered : control.enter store = .ok true)
    (refused : beginRound settings.maxIterations rounds = .error fault) :
    control.EndsIn settings body rounds store console (.failed fault console) := by
  refine ⟨nofun, 1, ?_⟩
  simp only [iterate_succ, entered, refused, Outcome.attempt_ok, Outcome.attempt_error, if_true]

/-- Below the greatest count, a round that is allowed makes the count larger by one. -/
theorem toNat_of_beginRound {most : UInt64} (below : most < 18446744073709551615)
    (begun : beginRound (some most) rounds = .ok counted) :
    counted.toNat = rounds.toNat + 1 ∧ counted.toNat ≤ most.toNat := by
  obtain ⟨within, same⟩ := beginRound_eq_ok_iff.mp begun
  have fits : counted.toNat ≤ most.toNat := by
    rw [← same]
    exact UInt64.le_iff_toNat_le.mp (within most rfl)
  have small : most.toNat < 18446744073709551615 := UInt64.lt_iff_toNat_lt.mp below
  refine ⟨?_, fits⟩
  unfold nextRound at same
  split at same
  next room =>
    have size : rounds.toNat + 1 < 18446744073709551616 := room
    rw [← same, UInt64.toNat_add]
    exact Nat.mod_eq_of_lt size
  next full =>
    have size : ¬ rounds.toNat + 1 < 18446744073709551616 := full
    rw [← same] at fits
    omega

/-- Within the limit, a round is refused only where the limit is used up. -/
theorem toNat_of_refused {most : UInt64} {fault : Fault} (room : rounds.toNat ≤ most.toNat)
    (refused : beginRound (some most) rounds = .error fault) :
    rounds.toNat = most.toNat ∧ fault = .budgetExceeded most := by
  obtain ⟨limit, same, beyond, rfl⟩ := beginRound_eq_error_iff.mp refused
  cases same
  refine ⟨?_, rfl⟩
  have exceeds := UInt64.lt_iff_toNat_lt.mp beyond
  unfold nextRound at exceeds
  split at exceeds
  next room' =>
    have size : rounds.toNat + 1 < 18446744073709551616 := room'
    have counted : (rounds + 1).toNat = rounds.toNat + 1 := by
      rw [UInt64.toNat_add]
      exact Nat.mod_eq_of_lt size
    omega
  next => omega

/-- The limit less the rounds so far goes down with each round. -/
theorem exists_endsIn (control : LoopControl) {most : UInt64}
    (limited : settings.maxIterations = some most) (below : most < 18446744073709551615)
    (bodyEnds : ∀ store console, ∃ fuel, body.exec settings fuel store console ≠ .outOfFuel)
    (rounds : UInt64) (store : Store) (console : Console) :
    ∃ outcome, control.EndsIn settings body rounds store console outcome := by
  induction room : most.toNat - rounds.toNat using Nat.strongRecOn
    generalizing rounds store console with
  | _ room ih =>
    cases entered : control.enter store with
    | error fault => exact ⟨_, .enterFails entered⟩
    | ok begins =>
      cases begins with
      | false => exact ⟨_, .stop entered⟩
      | true =>
        cases begun : beginRound settings.maxIterations rounds with
        | error fault => exact ⟨_, .countFails entered begun⟩
        | ok counted =>
          obtain ⟨fuel, bodyEnded⟩ := bodyEnds store console
          have ran : body.EndsIn settings store console _ := ⟨bodyEnded, fuel, rfl⟩
          cases reached : body.exec settings fuel store console with
          | outOfFuel => exact absurd reached bodyEnded
          | failed fault between => exact ⟨_, .bodyFails entered begun (reached ▸ ran)⟩
          | done after between =>
            rw [reached] at ran
            cases left : control.leave after with
            | error fault => exact ⟨_, .leaveFails entered begun ran left⟩
            | ok result =>
              obtain ⟨next, again⟩ := result
              cases again with
              | false => exact ⟨_, .last entered begun ran left⟩
              | true =>
                have counts := toNat_of_beginRound below (limited ▸ begun)
                obtain ⟨outcome, goesOn⟩ :=
                  ih (most.toNat - counted.toNat) (by omega) counted next between rfl
                exact ⟨outcome, .again entered begun ran left goesOn⟩

end LoopControl

namespace Stmt

variable {settings : Settings} {most : UInt64}

/-- Under a limit below the greatest count every run ends. -/
theorem exec_ends (limited : settings.maxIterations = some most)
    (below : most < 18446744073709551615) (s : Stmt) (store : Store) (console : Console) :
    ∃ outcome, s.EndsIn settings store console outcome := by
  -- It is enough to find the fuel: the outcome is then whatever it leads to.
  suffices enough : ∃ fuel, s.exec settings fuel store console ≠ .outOfFuel by
    obtain ⟨fuel, ended⟩ := enough
    exact ⟨_, ended, fuel, rfl⟩
  induction s generalizing store console with
  | skip | writeStr => exact ⟨0, Outcome.done_ne_outOfFuel _ _⟩
  | assign target value =>
    refine ⟨0, ?_⟩
    cases found : value.evalInt store (.assignment target) <;> simp [exec, found]
  | seq first rest firstEnds restEnds =>
    obtain ⟨fuel, ended⟩ := firstEnds store console
    cases ran : first.exec settings fuel store console with
    | outOfFuel => exact absurd ran ended
    | failed fault between => exact ⟨fuel, by simp [exec, ran]⟩
    | done middle between =>
      obtain ⟨fuel', ended'⟩ := restEnds middle between
      have goesOn : rest.EndsIn settings middle between _ := ⟨ended', fuel', rfl⟩
      have comesTo : first.EndsIn settings store console (.done middle between) :=
        ⟨Outcome.done_ne_outOfFuel _ _, fuel, ran⟩
      obtain ⟨ended'', more, reached⟩ := comesTo.seq goesOn
      exact ⟨more, reached ▸ ended''⟩
  | ifThenElse cond yes no yesEnds noEnds =>
    cases tested : cond.evalBool store (.statement .ifThenElse) with
    | error fault => exact ⟨0, by simp [exec, tested]⟩
    | ok holds =>
      cases holds with
      | false =>
        obtain ⟨fuel, ended⟩ := noEnds store console
        exact ⟨fuel, by simpa [exec, tested] using ended⟩
      | true =>
        obtain ⟨fuel, ended⟩ := yesEnds store console
        exact ⟨fuel, by simpa [exec, tested] using ended⟩
  | ifThen cond body bodyEnds =>
    cases tested : cond.evalBool store (.statement .ifThen) with
    | error fault => exact ⟨0, by simp [exec, tested]⟩
    | ok holds =>
      cases holds with
      | false => exact ⟨0, by simp [exec, tested]⟩
      | true =>
        obtain ⟨fuel, ended⟩ := bodyEnds store console
        exact ⟨fuel, by simpa [exec, tested] using ended⟩
  | whileDo cond body bodyEnds | repeatUntil body cond bodyEnds | doWhile body cond bodyEnds =>
    obtain ⟨_, ended, fuel, rfl⟩ :=
      LoopControl.exists_endsIn _ limited below bodyEnds 0 store console
    exact ⟨fuel, ended⟩
  | forTo counter low high body bodyEnds =>
    cases started : low.evalInt store (.statement .forTo) with
    | error fault => exact ⟨0, by simp [exec, started]⟩
    | ok start =>
      obtain ⟨_, ended, fuel, rfl⟩ := (LoopControl.forTo counter high).exists_endsIn limited below
        bodyEnds 0 (store.bind counter start) console
      exact ⟨fuel, by simpa [exec, started] using ended⟩
  | readNum target =>
    refine ⟨0, ?_⟩
    rw [exec]
    split
    · exact Outcome.done_ne_outOfFuel _ _
    · exact Outcome.failed_ne_outOfFuel _ _
  | writeNum value =>
    refine ⟨0, ?_⟩
    cases found : value.evalInt store (.statement .writeNum) <;> simp [exec, found]

end Stmt

end ImpLang
