import ImpLang.Proofs.Euclid
import ImpLang.Proofs.Factorial
import ImpLang.Proofs.Mirror
import ImpLang.Proofs.Termination

/-!
# Every sample ends

Whatever it reads, and under any limit or none. Where there is a limit this holds of all programs,
and the greatest limit is no limit at all, so the matter is with runs that have none. A sample that
does not read runs alike on every console, and it is enough to run it once; the two that read,
`gcd` and `factorial`, end by the measures of their loops.
-/

namespace ImpLang

namespace Stmt

/-- Some fuel is enough for a statement to end. -/
def Ends (settings : Settings) (s : Stmt) (store : Store) (console : Console) : Prop :=
  ∃ outcome, s.EndsIn settings store console outcome

variable {settings : Settings} {s : Stmt} {store : Store} {console : Console}

theorem EndsIn.seqEnds {first rest : Stmt} {middle : Store} {between : Console}
    (ran : first.EndsIn settings store console (.done middle between))
    (goesOn : rest.Ends settings middle between) :
    (Stmt.seq first rest).Ends settings store console := by
  obtain ⟨outcome, later⟩ := goesOn
  exact ⟨outcome, ran.seq later⟩

theorem Ends.seq {first rest : Stmt} (begins : first.Ends settings store console)
    (goesOn : ∀ middle between, rest.Ends settings middle between) :
    (Stmt.seq first rest).Ends settings store console := by
  obtain ⟨outcome, ends⟩ := begins
  cases outcome with
  | done middle between => exact ends.seqEnds (goesOn middle between)
  | failed fault after => exact ⟨_, ends.seqFails rest⟩
  | outOfFuel => exact absurd rfl ends.1

/-- A read needs no fuel, so it is enough that the rest ends with any number. -/
theorem Ends.afterRead {target : Name} {rest : Stmt}
    (goesOn : ∀ n between, rest.Ends settings (store.bind target n) between) :
    (Stmt.seq (.readNum target) rest).Ends settings store console := by
  obtain ⟨number, between, read⟩ : ∃ number between,
      readNumber settings.prompt target console = (number, between) := ⟨_, _, rfl⟩
  cases number with
  | some n =>
    have reads : (Stmt.readNum target).EndsIn settings store console
        (.done (store.bind target n) between) :=
      ⟨Outcome.done_ne_outOfFuel _ _, 0, by rw [exec, read]⟩
    exact reads.seqEnds (goesOn n between)
  | none =>
    have starves : (Stmt.readNum target).EndsIn settings store console
        (.failed (.inputClosed target) between) :=
      ⟨Outcome.failed_ne_outOfFuel _ _, 0, by rw [exec, read]⟩
    exact ⟨_, starves.seqFails rest⟩

theorem ends_writeNum (value : Expr) : (Stmt.writeNum value).Ends settings store console := by
  refine ⟨_, ?_, 0, rfl⟩
  cases found : value.evalInt store (.statement .writeNum) with
  | ok n =>
    rw [exec, found]
    exact Outcome.done_ne_outOfFuel _ _
  | error fault =>
    rw [exec, found]
    exact Outcome.failed_ne_outOfFuel _ _

/-- A statement that does not read ends on every console if it does on one. -/
theorem Ends.elsewhere {limit : Option UInt64} {prompt : String}
    (readless : ∀ part ∈ s.parts, part.form ≠ .readNum)
    (ends : s.Ends ⟨limit, prompt⟩ store console) (prompt' : String) (console' : Console) :
    s.Ends ⟨limit, prompt'⟩ store console' := by
  obtain ⟨outcome, ended, fuel, reached⟩ := ends
  -- The consoles need not match in anything, since nothing is read from them.
  have mirrors : (s.exec ⟨limit, prompt⟩ fuel store console).Mirrors (fun _ _ => True)
      (fun _ _ _ => False) (s.exec ⟨limit, prompt'⟩ fuel store console') := by
    apply exec_mirrors_of_parts (fun _ _ _ => trivial) limit fuel _ store trivial
    intro part member talks store console console' _
    cases part with
    | readNum target => exact absurd rfl (readless _ member)
    | writeNum value => exact .attempt _ trivial fun n => .done store trivial
    | writeStr text => exact .done store trivial
    | _ => cases talks
  refine ⟨_, ?_, fuel, rfl⟩
  intro starved
  rw [reached, starved] at mirrors
  cases mirrors with
  | parted stopped => exact stopped
  | outOfFuel => exact ended rfl

/-- A statement that ends without a limit ends under every limit. -/
theorem Ends.limited {prompt : String} (ends : s.Ends ⟨none, prompt⟩ store console)
    (limit : Option UInt64) : s.Ends ⟨limit, prompt⟩ store console := by
  cases limit with
  | none => exact ends
  | some most =>
    by_cases below : most < 18446744073709551615
    · exact exec_ends rfl below s store console
    · have greatest : most = 18446744073709551615 := by
        rw [UInt64.lt_iff_toNat_lt] at below
        have bound := most.toNat_lt
        apply UInt64.toNat_inj.mp
        have size : (18446744073709551615 : UInt64).toNat = 18446744073709551615 := rfl
        omega
      obtain ⟨outcome, ended, fuel, reached⟩ := ends
      have same := exec_limit_congr prompt LoopControl.beginRound_greatest fuel s store console
      rw [greatest]
      exact ⟨outcome, ended, fuel, same.trans reached⟩

end Stmt

theorem Program.exists_endsIn {settings : Settings} {program : Program} {console : Console}
    (ends : program.body.Ends settings (.initial program.vars)
      (console.record (.started program.name program.vars.length))) :
    ∃ outcome, program.EndsIn settings console outcome := by
  obtain ⟨outcome, ends⟩ := ends
  cases outcome with
  | done store after => exact ⟨_, BodyEndsIn.done ends⟩
  | failed fault after => exact ⟨_, BodyEndsIn.failed ends⟩
  | outOfFuel => exact absurd rfl ends.1

namespace Catalog

theorem gcd_ends {settings : Settings} (unlimited : settings.maxIterations = none) (store : Store)
    (console : Console) : gcd.body.Ends settings store console := by
  rw [gcd_body]
  apply Stmt.Ends.afterRead
  intro a _
  apply Stmt.Ends.afterRead
  intro b between
  obtain ⟨fails, succeeds⟩ := (Pair.start a b store).run settings unlimited 0 between
  have loops : (Stmt.whileDo remainderLeft exchange).Ends settings
      ((store.bind ⟨"a"⟩ a).bind ⟨"b"⟩ b) between := by
    by_cases refused : Refused a b
    · obtain ⟨after, loop, _⟩ := fails refused
      exact ⟨_, .whileDo loop⟩
    · obtain ⟨_, final, after, loop, _⟩ := succeeds refused
      exact ⟨_, .whileDo loop⟩
  apply loops.seq
  intro _ _
  exact Stmt.ends_writeNum _

theorem factorial_ends {settings : Settings} (unlimited : settings.maxIterations = none)
    (store : Store) (console : Console) : factorial.body.Ends settings store console := by
  rw [factorial_body]
  apply Stmt.EndsIn.seqEnds ⟨Outcome.done_ne_outOfFuel _ _, 0, rfl⟩
  apply Stmt.Ends.afterRead
  intro n between
  apply Stmt.EndsIn.seqEnds (Stmt.EndsIn.assign rfl ⟨"f"⟩)
  have loops : (Stmt.forTo ⟨"i"⟩ (.int 1) (.named "n") multiply).Ends settings
      ((store.bind ⟨"n"⟩ n).bind ⟨"f"⟩ 1) (between.record (.assigned ⟨"f"⟩ 1)) := by
    obtain ⟨succeeds, fails⟩ := (Factoring.start n store).run settings unlimited (by omega)
      (by omega) 0 (between.record (.assigned ⟨"f"⟩ 1))
    by_cases few : n.toInt ≤ 20
    · obtain ⟨final, after, loop, _⟩ := succeeds few
      exact ⟨_, .forTo rfl loop⟩
    · obtain ⟨after, loop, _⟩ := fails (by omega)
      exact ⟨_, .forTo rfl loop⟩
  apply loops.seq
  intro _ _
  exact Stmt.ends_writeNum _

/-- The samples that do not read end within a dozen rounds of any loop. -/
theorem all_cases : ∀ sample ∈ all, sample.program = gcd ∨ sample.program = factorial ∨
    (∀ part ∈ sample.program.body.parts, part.form ≠ .readNum) ∧
      sample.program.body.exec {} 12 (.initial sample.program.vars)
        { source := .script [], sink := .discard } ≠ .outOfFuel := by
  decide +kernel

/-- Every sample ends, on any console and under any limit or none. -/
theorem exists_endsIn {sample : Sample} (member : sample ∈ all) (settings : Settings)
    (console : Console) : ∃ outcome, sample.program.EndsIn settings console outcome := by
  apply Program.exists_endsIn
  have unlimited : sample.program.body.Ends ⟨none, settings.prompt⟩ (.initial sample.program.vars)
      (console.record (.started sample.program.name sample.program.vars.length)) := by
    obtain isGcd | isFactorial | ⟨readless, ended⟩ := all_cases sample member
    · rw [isGcd]
      exact gcd_ends rfl _ _
    · rw [isFactorial]
      exact factorial_ends rfl _ _
    · exact Stmt.Ends.elsewhere readless ⟨_, ended, 12, rfl⟩ settings.prompt _
  exact unlimited.limited settings.maxIterations

end Catalog

end ImpLang
