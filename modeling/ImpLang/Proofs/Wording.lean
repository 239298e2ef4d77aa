import ImpLang.Proofs.Mirror
import Mathlib.Data.List.Forall2

/-!
# Prompts, sinks and titles

What a program prints does not come back to it, and what it is called only labels its reports. Two
runs with different prompts, sinks and titles of the program read the same lines and go through the
same stores; line by line they print the same, except that where one asks again the other asks in
its own words (`Line.Reworded`). Each leaves the events of the run, which are the same but for the
title, and among them one event for each line that its sink refuses (`Console.Journal`). This is a
mirror of consoles that have grown from two given ones by such lines and events.
-/

namespace ImpLang

/-- The same line, or the two prompts. -/
inductive Line.Reworded (prompt prompt' : String) : Line → Line → Prop
  | written (text : String) : Reworded prompt prompt' (.written text) (.written text)
  | prompt : Reworded prompt prompt' (.prompt prompt) (.prompt prompt')

/-- What so many lines leave on record, after as many others as were given before them. -/
def Sink.complaints (sink : Sink) (before count : Nat) : List Event :=
  (List.range' before count).flatMap sink.complaint

theorem Sink.complaints_succ (sink : Sink) (before count : Nat) :
    sink.complaints before (count + 1) =
      sink.complaints before count ++ sink.complaint (before + count) := by
  simp [complaints, List.range'_1_concat]

theorem Sink.complaints_of_accepting {sink : Sink}
    (accepting : ∀ before, sink.refusal? before = none) (before count : Nat) :
    sink.complaints before count = [] := by
  simp [complaints, complaint, accepting]

namespace Console

/-- What is on record once these lines are handed to the sink of a console: the events of the run
itself, and one for each of the lines that is refused. -/
structure Journal (console : Console) (lines : List Line) (own events : List Event) : Prop where
  others : events.filter (!·.isRefusal) = own
  refusals : events.filter (·.isRefusal) = console.sink.complaints console.printed.size lines.length

namespace Journal

variable {console : Console} {lines : List Line} {own events : List Event}

theorem nil (console : Console) : console.Journal [] [] [] :=
  ⟨rfl, rfl⟩

theorem record (journal : console.Journal lines own events) {event : Event}
    (noRefusal : event.isRefusal = false) :
    console.Journal lines (own ++ [event]) (events ++ [event]) := by
  constructor
  · simp [journal.others, noRefusal]
  · simp [journal.refusals, noRefusal]

/-- An event before the journal does not show in it. -/
theorem beforehand {event : Event} (journal : (console.record event).Journal lines own events) :
    console.Journal lines own events :=
  ⟨journal.others, journal.refusals⟩

theorem starve (journal : console.Journal lines own events) (source : Source) :
    console.Journal lines (own ++ source.complaint) (events ++ source.complaint) := by
  unfold Source.complaint
  cases source.failure? with
  | none => simpa using journal
  | some reason => exact journal.record rfl

theorem print (journal : console.Journal lines own events) (line : Line) :
    console.Journal (lines ++ [line]) own
      (events ++ console.sink.complaint (console.printed.size + lines.length)) := by
  constructor
  · rw [List.filter_append, journal.others, Sink.complaint]
    cases console.sink.refusal? (console.printed.size + lines.length) with
    | none => exact List.append_nil own
    | some reason => exact List.append_nil own
  · rw [List.filter_append, journal.refusals, List.length_append, List.length_singleton,
      Sink.complaints_succ, Sink.complaint]
    cases console.sink.refusal? (console.printed.size + lines.length) <;> rfl

/-- With a sink that takes every line, there is nothing else on record. -/
theorem eq_own (journal : console.Journal lines own events)
    (accepting : ∀ before, console.sink.refusal? before = none) : events = own := by
  have none : events.filter (·.isRefusal) = [] := by
    rw [journal.refusals, Sink.complaints_of_accepting accepting]
  rw [← journal.others, List.filter_eq_self.mpr]
  intro event member
  simpa using List.filter_eq_nil_iff.mp none event member

end Journal

/-- From two consoles on, the same is read, what is printed is the same up to the wording of
prompts, and what is left on record is the same but for the lines refused. -/
def Reworded (prompt prompt' : String) (before before' console console' : Console) : Prop :=
  ∃ rest lines lines' own events events',
    List.Forall₂ (Line.Reworded prompt prompt') lines lines' ∧
    before.Journal lines own events ∧ before'.Journal lines' own events' ∧
    console = before.advance rest lines events ∧ console' = before'.advance rest lines' events'

variable {prompt prompt' : String} {before before' : Console}

theorem Reworded.start (same : before'.source = before.source) :
    Reworded prompt prompt' before before' before before' := by
  refine ⟨before.source, [], [], [], [], [], .nil, .nil before, .nil before',
    (advance_self before).symm, ?_⟩
  rw [← same, advance_self]

theorem reworded_mirror :
    Mirror prompt prompt' (Reworded prompt prompt' before before') fun _ _ _ => False where
  record := by
    intro _ _ event noRefusal sofar
    obtain ⟨rest, lines, lines', own, events, events', alike, journal, journal', rfl, rfl⟩ := sofar
    exact ⟨rest, lines, lines', own ++ [event], _, _, alike, journal.record noRefusal,
      journal'.record noRefusal, by simp, by simp⟩
  write := by
    intro _ _ text sofar
    obtain ⟨rest, lines, lines', own, events, events', alike, journal, journal', rfl, rfl⟩ := sofar
    have longer := List.rel_append alike (.cons (.written text) .nil)
    exact ⟨rest, _, _, own, _, _, longer, journal.print _, journal'.print _, by simp, by simp⟩
  ask := by
    intro _ _ sofar
    obtain ⟨rest, lines, lines', own, events, events', alike, journal, journal', rfl, rfl⟩ := sofar
    have longer := List.rel_append alike (.cons .prompt .nil)
    exact ⟨rest, _, _, own, _, _, longer, journal.print _, journal'.print _, by simp, by simp⟩
  offers := by
    intro _ _ sofar
    obtain ⟨rest, lines, lines', own, events, events', alike, journal, journal', rfl, rfl⟩ := sofar
    cases taken : rest.next? with
    | none =>
      exact .closed taken taken ⟨rest, lines, lines', own ++ rest.complaint, _, _, alike,
        journal.starve rest, journal'.starve rest, by simp, by simp⟩
    | some found =>
      obtain ⟨text, left⟩ := found
      exact .line taken taken
        ⟨left, lines, lines', own, events, events', alike, journal, journal', rfl, rfl⟩

end Console

/-- A program under another title, with another prompt and another place to print to, diverges if it
does and otherwise reads as far and prints the same lines up to the wording of prompts. After the
event that has the title, both leave the same events, each with one more for every line that its
sink refuses, and so the same if neither refuses a line. It ends in the same store, or fails with
the same diagnostic and message and a note that has its title. -/
theorem Program.run_reworded (settings : Settings) (prompt' : String) (program : Program)
    (title : String) (console console' : Console) :
    let settings' : Settings := { settings with prompt := prompt' }
    let program' : Program := { program with name := title }
    let start' : Console := { console' with source := console.source }
    (program.Diverges settings console ∧ program'.Diverges settings' start') ∨
    ∃ rest lines lines' own events events',
      List.Forall₂ (Line.Reworded settings.prompt prompt') lines lines' ∧
      console.Journal lines own events ∧ start'.Journal lines' own events' ∧
      ((∀ before, console.sink.refusal? before = none) →
        (∀ before, console'.sink.refusal? before = none) → events = events') ∧
      let after := console.advance rest lines (.started program.name program.vars.length :: events)
      let after' := start'.advance rest lines' (.started title program.vars.length :: events')
      ((∃ store, program.EndsIn settings console (.done store after) ∧
        program'.EndsIn settings' start' (.done store after')) ∨
      ∃ diagnostic : Diagnostic,
        program.EndsIn settings console
          (.failed ⟨diagnostic, diagnostic.message, ["in program '" ++ program.name ++ "'"]⟩
            after) ∧
        program'.EndsIn settings' start'
          (.failed ⟨diagnostic, diagnostic.message, ["in program '" ++ title ++ "'"]⟩
            after')) := by
  intro settings' program' start'
  have begun : Console.Reworded settings.prompt prompt'
      (console.record (.started program.name program.vars.length))
      (start'.record (.started title program.vars.length)) _ _ := .start rfl
  have same {lines lines' : List Line} {own events events' : List Event}
      (journal : console.Journal lines own events) (journal' : start'.Journal lines' own events')
      (accepting : ∀ before, console.sink.refusal? before = none)
      (accepting' : ∀ before, console'.sink.refusal? before = none) : events = events' :=
    (journal.eq_own accepting).trans (journal'.eq_own accepting').symm
  rcases program.end_together program' fun fuel =>
      (program.body.exec_mirrors Console.reworded_mirror settings.maxIterations fuel
        (.initial program.vars) begun).rel with
    both | ⟨store, _, _, _, ⟨rfl, rest, lines, lines', own, events, events', alike, journal,
      journal', rfl, rfl⟩, ends, ends'⟩ |
    ⟨fault, _, _, _, ⟨rfl, rest, lines, lines', own, events, events', alike, journal, journal',
      rfl, rfl⟩, ends, ends'⟩
  · exact Or.inl both
  · have last : (Event.finished store.size).isRefusal = false := rfl
    have journal := journal.beforehand.record last
    have journal' := journal'.beforehand.record last
    rw [Console.advance_record, Console.record_advance] at ends ends'
    exact Or.inr ⟨rest, lines, lines', _, _, _, alike, journal, journal', same journal journal',
      Or.inl ⟨store, ends, ends'⟩⟩
  · have last : (Event.failed fault).isRefusal = false := rfl
    have journal := journal.beforehand.record last
    have journal' := journal'.beforehand.record last
    rw [Console.advance_record, Console.record_advance] at ends ends'
    exact Or.inr ⟨rest, lines, lines', _, _, _, alike, journal, journal', same journal journal',
      Or.inr ⟨fault.diagnostic, ends, ends'⟩⟩

/-- A terminal that is gone leaves an event for the one line of a program, and a buffer does not. -/
theorem Program.run_reworded_refused : ∃ (program : Program) (reason : String)
    (console console' : Console),
    program = ⟨"greet", [], .writeStr "hello"⟩ ∧ reason = "Broken pipe (os error 32)" ∧
    console = { source := .script [], sink := .terminal { last := some reason } } ∧
    console' = { source := .script [], sink := .buffer } ∧
    program.EndsIn {} console (.done .empty { console with
      printed := #[.written "hello"]
      events := #[.started "greet" 0, .writeFailed reason, .finished 0] }) ∧
    program.EndsIn {} console' (.done .empty { console' with
      printed := #[.written "hello"]
      events := #[.started "greet" 0, .finished 0] }) := by
  refine ⟨_, _, _, _, rfl, rfl, rfl, rfl, ⟨nofun, 0, ?_⟩, ⟨nofun, 0, ?_⟩⟩
  · decide +kernel
  · decide +kernel

end ImpLang
