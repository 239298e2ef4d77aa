import ImpLang.Command
import ImpLang.Proofs.OptionReading
import ImpLang.Proofs.SampleEnding

/-!
# What running a sample leaves behind

The command line reads the options of a run before it looks for the program, and looks for the
program before it reads any input. After that it runs the program as anyone would, on a console that
reads the standard input: what it leaves behind is told by that run (`Command.Leaves`), wherever the
lines of the run go. Since every sample ends, something is always left behind.
-/

namespace ImpLang

namespace Console

/-- The second console has the same to read and has been given the same lines, for a sink of its
own. -/
structure PrintingTo (sink : Sink) (console console' : Console) : Prop where
  source : console'.source = console.source
  printed : console'.printed = console.printed
  sink : console'.sink = sink

/-- A run does not see where its lines go. -/
theorem printingTo_mirror (prompt : String) (sink : Sink) :
    Mirror prompt prompt (PrintingTo sink) fun _ _ _ => False where
  record := fun _ _ same => ⟨same.source, same.printed, same.sink⟩
  write := fun text same => ⟨same.source, congrArg (·.push (.written text)) same.printed, same.sink⟩
  ask := fun same => ⟨same.source, congrArg (·.push (.prompt prompt)) same.printed, same.sink⟩
  offers := by
    intro console console' same
    cases taken : console.source.next? with
    | none =>
      exact .closed taken (same.source ▸ taken) ⟨same.source, same.printed, same.sink⟩
    | some found => exact .line taken (same.source ▸ taken) ⟨rfl, same.printed, same.sink⟩

end Console

theorem Outcome.ofResult_inj {ε : Type} {console console' : Console}
    {result result' : Except ε Store}
    (same : ofResult console result = ofResult console' result') :
    console = console' ∧ result = result' := by
  cases result <;> cases result' <;> simp_all [ofResult]

theorem Program.EndsIn.printingTo {settings : Settings} {program : Program}
    {console after : Console} {result : Except Report Store}
    (ends : program.EndsIn settings console (.ofResult after result)) (sink : Sink) :
    ∃ after', after.PrintingTo sink after' ∧
      program.EndsIn settings { console with sink := sink } (.ofResult after' result) := by
  obtain ⟨diverges, _⟩ | ⟨result', _, after', same, ends', elsewhere⟩ :=
    Program.mirrored (Console.printingTo_mirror settings.prompt sink) settings.maxIterations program
      (⟨rfl, rfl, rfl⟩ : console.PrintingTo sink { console with sink := sink })
  · obtain ⟨ended, fuel, reached⟩ := ends
    exact absurd (reached.symm.trans (diverges fuel)) ended
  · obtain ⟨rfl, rfl⟩ := Outcome.ofResult_inj (ends.unique ends')
    exact ⟨after', same, elsewhere⟩

/-- A terminal that takes every line shows what the other sink was given. -/
theorem Console.PrintingTo.shown {console console' : Console}
    (same : console.PrintingTo .terminal console') : console'.shown = console.textFrom 0 := by
  rw [shown_of_accepting same.sink fun _ => rfl, textFrom, same.printed]
  rfl

namespace Catalog

/-- A sample is found by its name, which no other sample has. -/
theorem find?_name : ∀ sample ∈ all, find? sample.name = some sample := by
  decide +kernel

theorem find?_eq_none_iff {name : String} :
    find? name = none ↔ ∀ sample ∈ all, sample.name ≠ name := by
  simp [find?]

end Catalog

namespace Command

/-- With enough fuel the command line leaves this behind, and with less it may not be able to
tell. -/
def Leaves (arguments : List String) (stdin : List UInt8) (code : UInt32) (out err : String) :
    Prop :=
  ∃ enough, ∀ fuel,
    (∃ starved, interpret fuel arguments stdin = some { code, out, err, starved }) ∨
      fuel < enough ∧ interpret fuel arguments stdin = none

variable {name : String} {arguments : List String} {stdin : List UInt8} {options : RunOptions}
  {sample : Sample}

theorem interpret_run (fuel : Nat) (name : String) (arguments : List String)
    (stdin : List UInt8) :
    interpret fuel ("run" :: name :: arguments) stdin =
      (runProgram name arguments).execute fuel stdin := rfl

theorem leaves_of_refused {refusal : RunOptions.Refusal}
    (refused : RunOptions.parse arguments = .error refusal) :
    Leaves ("run" :: name :: arguments) stdin 1 "" (refusal.message ++ "\n") := by
  refine ⟨0, fun fuel => Or.inl ⟨false, ?_⟩⟩
  rw [interpret_run, execute, refused]
  rfl

theorem leaves_of_unknown (parsed : RunOptions.parse arguments = .ok options)
    (unknown : Catalog.find? name = none) :
    Leaves ("run" :: name :: arguments) stdin 1 ""
      ("unknown program '" ++ name ++ "' (see `imp list`)" ++ "\n") := by
  refine ⟨0, fun fuel => Or.inl ⟨false, ?_⟩⟩
  rw [interpret_run, execute, parsed, unknown]
  rfl

section

variable (parsed : RunOptions.parse arguments = .ok options)
  (found : Catalog.find? name = some sample)
include parsed found

theorem interpret_sample (fuel : Nat) :
    interpret fuel ("run" :: name :: arguments) stdin = runSample fuel sample options stdin := by
  rw [interpret_run, execute, parsed]
  simp only [found]

/-- A run that ends leaves behind what its outcome is turned into. -/
theorem leaves_of_endsIn {outcome : Outcome Report} {code : UInt32} {out err : String}
    (ends : sample.program.EndsIn options.settings { source := .stream stdin, sink := .terminal }
      outcome)
    (told : ∀ fuel, sample.program.run options.settings fuel
        { source := .stream stdin, sink := .terminal } = outcome →
      ∃ starved, runSample fuel sample options stdin = some { code, out, err, starved }) :
    Leaves ("run" :: name :: arguments) stdin code out err := by
  obtain ⟨enough, runs⟩ := ends.enough
  refine ⟨enough, fun fuel => ?_⟩
  rw [interpret_sample parsed found]
  obtain ran | ⟨less, cut⟩ := runs fuel
  · exact Or.inl (told fuel ran)
  · exact Or.inr ⟨less, by rw [runSample, cut]⟩

theorem leaves_of_done {store : Store} {after : Console}
    (ends : sample.program.EndsIn options.settings { source := .stream stdin, sink := .terminal }
      (.done store after)) :
    Leaves ("run" :: name :: arguments) stdin 0
      (after.shown ++ if options.dumpState then store.dump else "") "" := by
  apply leaves_of_endsIn parsed found ends
  intro fuel ran
  rw [runSample, ran]
  exact ⟨false, rfl⟩

theorem leaves_of_failed {report : Report} {after : Console}
    (ends : sample.program.EndsIn options.settings { source := .stream stdin, sink := .terminal }
      (.failed report after)) :
    Leaves ("run" :: name :: arguments) stdin 1 after.shown (report.render ++ "\n") := by
  apply leaves_of_endsIn parsed found ends
  intro fuel ran
  rw [runSample, ran]
  exact ⟨_, rfl⟩

end

/-- Running a sample from the command line agrees with running it on any console that reads the
standard input. Arguments that are no options are refused first, whatever the name, and a name that
no sample has is refused next, both with nothing on the standard output. Otherwise the program is
run under the limit of the options, and always ends. If it succeeds, its lines are all of the output
but for the final store, which follows them exactly if it was asked for; if it fails, the output is
its lines alone, and the report on the failure is the complaint. -/
theorem run_agrees_with_program (name : String) (arguments : List String) (stdin : List UInt8) :
    (∀ refusal, RunOptions.parse arguments = .error refusal →
      Leaves ("run" :: name :: arguments) stdin 1 "" (refusal.message ++ "\n")) ∧
    ∀ options, RunOptions.parse arguments = .ok options →
      ((∀ sample ∈ Catalog.all, sample.name ≠ name) →
        Leaves ("run" :: name :: arguments) stdin 1 ""
          ("unknown program '" ++ name ++ "' (see `imp list`)" ++ "\n")) ∧
      ∀ sample ∈ Catalog.all, sample.name = name → ∀ sink : Sink,
        let settings : Settings := { maxIterations := options.maxIterations }
        let start : Console := { source := .stream stdin, sink := sink }
        (∃ outcome, sample.program.EndsIn settings start outcome) ∧
        (∀ store after, sample.program.EndsIn settings start (.done store after) →
          Leaves ("run" :: name :: arguments) stdin 0
            (after.textFrom 0 ++ if "--dump-state" ∈ arguments then store.dump else "") "") ∧
        ∀ report after, sample.program.EndsIn settings start (.failed report after) →
          Leaves ("run" :: name :: arguments) stdin 1 (after.textFrom 0)
            (report.render ++ "\n") := by
  constructor
  · intro refusal refused
    exact leaves_of_refused refused
  intro options parsed
  constructor
  · intro unknown
    exact leaves_of_unknown parsed (Catalog.find?_eq_none_iff.mpr unknown)
  intro sample member named sink settings start
  have found : Catalog.find? name = some sample := named ▸ Catalog.find?_name sample member
  constructor
  · exact Catalog.exists_endsIn member settings start
  -- The command line prints to the terminal, so the run is carried over to there.
  constructor
  · intro store after ends
    have ends : sample.program.EndsIn settings start (.ofResult after (.ok store)) := ends
    obtain ⟨after', same, elsewhere⟩ := ends.printingTo .terminal
    have shown := leaves_of_done parsed found elsewhere
    have dumps := (RunOptions.asksFor_of_parse parsed).dumps
    simp only [dumps, same.shown] at shown
    exact shown
  · intro report after ends
    have ends : sample.program.EndsIn settings start (.ofResult after (.error report)) := ends
    obtain ⟨after', same, elsewhere⟩ := ends.printingTo .terminal
    rw [← same.shown]
    exact leaves_of_failed parsed found elsewhere

end Command

end ImpLang
