import ImpLang.Proofs.Mirror
import ImpLang.Proofs.Observation
import ImpLang.Proofs.WriteHistory

/-!
# The events account for the run

A run can be checked against its events. Every line it has read is on record as a number or as a
refusal, and each refusal was answered with one prompt. Whoever replays the assignments and reads on
record from the declared variables at zero gets the final store, counters of loops apart. An account
holds at the start, every effect extends it (`Accounted.step`), and so it holds wherever a run ends,
also by a failure.
-/

namespace ImpLang

namespace Event

/-- The binding that an event tells of. -/
def write? : Event → Option (Name × Int64)
  | .assigned target value | .read target value => some (target, value)
  | _ => none

/-- Whether an event tells of a number read. -/
def isRead : Event → Bool
  | .read .. => true
  | _ => false

/-- Whether an event tells of a line that was no number. -/
def isMalformed : Event → Bool
  | .malformed .. => true
  | _ => false

/-- The bindings that events tell of, in turn. -/
def writes (events : List Event) : List (Name × Int64) :=
  events.filterMap write?

end Event

/-- Whether a line asks for a number again. -/
def Line.isPrompt : Line → Bool
  | .prompt _ => true
  | .written _ => false

/-- What is read, printed and recorded between two points of a run. -/
structure Account (counters : Finset Name) (before after : Store × Console)
    (consumed : List String) (rest : Source) (lines : List Line) (events : List Event) : Prop where
  console : after.2 = before.2.advance rest lines events
  input : before.2.source.Yields consumed rest
  /-- Each line that is read is on record. -/
  reads : consumed.length = events.countP Event.isRead + events.countP Event.isMalformed
  /-- Each refusal is answered. -/
  prompts : events.countP Event.isMalformed = lines.countP Line.isPrompt
  /-- The bindings on record make one store of the other. -/
  values : (before.1.bindAll (Event.writes events)).AgreeOn {name | name ∉ counters} after.1

/-- There is an account of what happened between two points of a run. -/
def Accounted (counters : Finset Name) (before after : Store × Console) : Prop :=
  ∃ consumed rest lines events, Account counters before after consumed rest lines events

/-- A binding that is put on record is replayed. -/
theorem Store.AgreeOn.replay {seen : Set Name} {before store : Store} {events : List Event}
    {event : Event} {name : Name} {value : Int64} (writes : event.write? = some (name, value))
    (agree : (before.bindAll (Event.writes events)).AgreeOn seen store) :
    (before.bindAll (Event.writes (events ++ [event]))).AgreeOn seen (store.bind name value) := by
  have recorded : Event.writes (events ++ [event]) = Event.writes events ++ [(name, value)] := by
    simp [Event.writes, writes]
  rw [recorded, Store.bindAll_concat]
  exact agree.bind name value

namespace Accounted

variable {counters : Finset Name} {start : Store × Console} {store : Store} {console : Console}

theorem refl (start : Store × Console) : Accounted counters start start :=
  ⟨[], start.2.source, [], [],
    { console := start.2.advance_self.symm
      input := .nothing _
      reads := rfl
      prompts := rfl
      values := fun _ _ => rfl }⟩

/-- An event that tells neither of a line nor of a binding. -/
theorem record (accounted : Accounted counters start (store, console)) {event : Event}
    (noRead : event.isRead = false) (noRefusal : event.isMalformed = false)
    (noWrite : event.write? = none) :
    Accounted counters start (store, console.record event) := by
  obtain ⟨consumed, rest, lines, events, account⟩ := accounted
  obtain rfl : console = _ := account.console
  refine ⟨consumed, rest, lines, events ++ [event], by simp, account.input, ?_, ?_, ?_⟩
  · simpa [noRead, noRefusal] using account.reads
  · simpa [noRefusal] using account.prompts
  · simpa [Event.writes, noWrite] using account.values

/-- Once a line that is handed over is accounted for, so is what the sink makes of it. -/
theorem print {line : Line}
    (accounted : Accounted counters start
      (store, { console with printed := console.printed.push line })) :
    Accounted counters start (store, console.print line) := by
  rcases console.print_cases line with same | ⟨reason, same⟩
  · rwa [same]
  · rw [same]
    exact accounted.record rfl rfl rfl

theorem step {prompt : String} {next : Store × Console}
    (accounted : Accounted counters start (store, console))
    (effect : Effect prompt counters (store, console) next) : Accounted counters start next := by
  have sofar := accounted
  obtain ⟨consumed, rest, lines, events, account⟩ := accounted
  obtain rfl : console = _ := account.console
  cases effect with
  | assign _ _ name value =>
    refine ⟨consumed, rest, lines, events ++ [.assigned name value], by simp, account.input, ?_, ?_,
      account.values.replay rfl⟩
    · simpa [Event.isRead, Event.isMalformed] using account.reads
    · simpa [Event.isMalformed] using account.prompts
  | @count _ _ name counter value =>
    -- A counter is set without an event, and only other names are compared.
    refine ⟨consumed, rest, lines, events, rfl, account.input, account.reads, account.prompts, ?_⟩
    intro other seen
    have different : other ≠ name := fun same => seen (same ▸ counter)
    rw [account.values other seen, Store.get?_bind, if_neg different]
  | @accept _ _ _ name line value taken number =>
    obtain ⟨left, found, rfl⟩ := Console.readLine?_eq_some_iff.mp taken
    refine ⟨consumed ++ [line], left, lines, events ++ [.read name value], ?_,
      account.input.append (.line found (.nothing left)), ?_, ?_, account.values.replay rfl⟩
    · exact Console.record_advance start.2 left lines events _
    · simpa [Event.isRead, Event.isMalformed, Nat.add_right_comm] using account.reads
    · simpa [Event.isMalformed] using account.prompts
  | @refuse _ _ _ line defect taken defective =>
    obtain ⟨left, found, rfl⟩ := Console.readLine?_eq_some_iff.mp taken
    refine print ⟨consumed ++ [line], left, lines ++ [.prompt prompt],
      events ++ [.malformed defect (Text.trim line)], ?_,
      account.input.append (.line found (.nothing left)), ?_, ?_, ?_⟩
    · simp [Console.advance, Console.record]
    · simpa [Event.isRead, Event.isMalformed, ← Nat.add_assoc] using account.reads
    · simpa [Event.isMalformed, Line.isPrompt] using account.prompts
    · simpa [Event.writes, List.filterMap_cons, Event.write?] using account.values
  | starve =>
    rcases Console.starve_cases (start.2.advance rest lines events) with same | ⟨reason, same⟩
    · rwa [same]
    · rw [same]
      exact sofar.record rfl rfl rfl
  | write _ _ text =>
    refine print ⟨consumed, rest, lines ++ [.written text], events, ?_, account.input,
      account.reads, ?_, account.values⟩
    · simp [Console.advance]
    · simpa [Line.isPrompt] using account.prompts
  | finish => exact sofar.record rfl rfl rfl

/-- Effects that follow an account extend it. -/
theorem effects {prompt : String} {before after : Store × Console}
    (accounted : Accounted counters start before) (effects : Effects prompt counters before after) :
    Accounted counters start after := by
  induction effects with
  | refl => exact accounted
  | tail _ effect ih => exact ih.step effect

end Accounted

/-- What a run of a program has done by the time it ends, with its store if it is done. -/
theorem Program.EndsIn.accounted {settings : Settings} {program : Program}
    {console after : Console} {result : Except Report Store}
    (ends : program.EndsIn settings console (.ofResult after result)) :
    ∃ store, (∀ final, result = .ok final → final = store) ∧
      Accounted program.body.counters (.initial program.vars, console) (store, after) := by
  have begun : Accounted program.body.counters (.initial program.vars, console)
      (.initial program.vars, console.record (.started program.name program.vars.length)) :=
    (Accounted.refl _).record rfl rfl rfl
  have effects (fuel : Nat) := program.body.exec_reached settings fuel (.initial program.vars)
    (console.record (.started program.name program.vars.length))
  cases result with
  | ok store =>
    obtain ⟨between, ⟨_, fuel, ran⟩, rfl⟩ := EndsIn.done ends
    have reached := effects fuel
    rw [ran] at reached
    cases reached with
    | done steps =>
      refine ⟨store, fun final same => (Except.ok.inj same).symm, ?_⟩
      exact (begun.effects steps).record rfl rfl rfl
  | error report =>
    obtain ⟨fault, between, ⟨_, fuel, ran⟩, _, rfl⟩ := EndsIn.failed ends
    have reached := effects fuel
    rw [ran] at reached
    cases reached with
    | failed steps =>
      obtain ⟨store, steps⟩ := steps
      exact ⟨store, nofun, (begun.effects steps).record rfl rfl rfl⟩

/-- When a program has ended, the lines it has read are as many as the reads and refusals on record,
and the refusals as many as the prompts it has printed. If it is done, a name that no loop counts
with has the value of the last assignment or read on record for it; without one it is zero if it is
declared, and unbound if not. -/
theorem Program.run_accounted {settings : Settings} {program : Program} {console after : Console}
    {result : Except Report Store}
    (ends : program.EndsIn settings console (.ofResult after result)) :
    ∃ consumed rest lines events, after = console.advance rest lines events ∧
      console.source.Yields consumed rest ∧
      consumed.length = events.countP Event.isRead + events.countP Event.isMalformed ∧
      events.countP Event.isMalformed = lines.countP Line.isPrompt ∧
      ∀ store, result = .ok store → ∀ name, name ∉ program.body.counters →
        store.get? name = Store.lastValue? program.vars (Event.writes events) name := by
  obtain ⟨last, final, consumed, rest, lines, events, account⟩ := ends.accounted
  refine ⟨consumed, rest, lines, events, account.console, account.input, account.reads,
    account.prompts, ?_⟩
  intro store result name outside
  rw [final store result, ← Store.get?_written]
  exact (account.values name outside).symm

/-- A program that reads a number, past a line that is none, and sums up to it. The counter of its
loop is bound in the end and has no write on record. -/
theorem Program.run_accounted_sum : ∃ (program : Program) (console after : Console) (store : Store),
    program = ⟨"sum", [⟨"n"⟩, ⟨"k"⟩], .seq (.readNum ⟨"n"⟩) (.forTo ⟨"i"⟩ (.int 1) (.named "n")
      (.assign ⟨"k"⟩ (.add (.named "k") (.named "i"))))⟩ ∧
    console = { source := .script ["two", "2", "9"], sink := .buffer } ∧
    program.EndsIn {} console (.ofResult after (.ok store)) ∧
    store.entries = [(⟨"n"⟩, 2), (⟨"k"⟩, 3), (⟨"i"⟩, 3)] ∧
    ∃ consumed lines events, after = console.advance (.script ["9"]) lines events ∧
      console.source.Yields consumed (.script ["9"]) ∧
      consumed.length = events.countP Event.isRead + events.countP Event.isMalformed ∧
      events.countP Event.isMalformed = lines.countP Line.isPrompt ∧
      ∀ name, name ≠ ⟨"i"⟩ →
        store.get? name = Store.lastValue? [⟨"n"⟩, ⟨"k"⟩] (Event.writes events) name := by
  obtain ⟨program, known⟩ : ∃ program : Program, program = ⟨"sum", [⟨"n"⟩, ⟨"k"⟩],
      .seq (.readNum ⟨"n"⟩) (.forTo ⟨"i"⟩ (.int 1) (.named "n")
        (.assign ⟨"k"⟩ (.add (.named "k") (.named "i"))))⟩ := ⟨_, rfl⟩
  have ends : program.EndsIn {} { source := .script ["two", "2", "9"], sink := .buffer }
      (.ofResult
        { source := .script ["9"], sink := .buffer, printed := #[.prompt defaultPrompt],
          events := #[.started "sum" 2, .malformed .invalidDigit "two", .read ⟨"n"⟩ 2,
            .assigned ⟨"k"⟩ 1, .assigned ⟨"k"⟩ 3, .loopFinished .forTo 2, .finished 3] }
        (.ok (.ofEntries [(⟨"n"⟩, 2), (⟨"k"⟩, 3), (⟨"i"⟩, 3)]))) := by
    refine ⟨nofun, 4, ?_⟩
    rw [known]
    decide +kernel
  have counters : program.body.counters = {⟨"i"⟩} := by
    rw [known]
    decide
  have declared : program.vars = [⟨"n"⟩, ⟨"k"⟩] := by rw [known]
  obtain ⟨consumed, rest, lines, events, reached, input, reads, prompts, values⟩ :=
    run_accounted ends
  obtain rfl : Source.script ["9"] = rest := congrArg Console.source reached
  refine ⟨program, _, _, _, known, rfl, ends, by decide, consumed, lines, events, reached, input,
    reads, prompts, ?_⟩
  intro name other
  rw [← declared]
  apply values _ rfl
  rwa [counters, Finset.mem_singleton]

end ImpLang
