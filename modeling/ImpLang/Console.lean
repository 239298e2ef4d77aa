import ImpLang.Event
import ImpLang.Source

/-!
# Consoles

All that a run has to do with the world around it: the input it reads from, the lines it prints and
the events it leaves. Everything printed is kept, with prompts told apart from what the program
wrote; the sink decides who gets to see it. A line that a terminal does not take is no reason to
stop: its refusal is left as an event and the run goes on.
-/

namespace ImpLang

inductive Line where
  | written (text : String)
  | prompt (text : String)
  deriving DecidableEq, Repr

def Line.text : Line → String
  | .written text | .prompt text => text

/-- What a terminal answers to the lines it is given, in order: nothing where it takes the line, or
why it does not. Once the answers are used up the last one holds for good. -/
structure Device where
  answers : List (Option String) := []
  last : Option String := none
  deriving DecidableEq, Repr

/-- The answer to a line before which so many others were given. -/
def Device.refusal? (device : Device) (before : Nat) : Option String :=
  device.answers.getD before device.last

/-- Where printed lines go: to a terminal, to a buffer that can be looked at, or nowhere. -/
inductive Sink where
  | terminal (device : Device := {})
  | buffer
  | discard
  deriving DecidableEq, Repr

/-- Only a terminal can refuse a line. -/
def Sink.refusal? : Sink → Nat → Option String
  | .terminal device, before => device.refusal? before
  | .buffer, _ | .discard, _ => none

/-- What a line before which so many others were given leaves on record. -/
def Sink.complaint (sink : Sink) (before : Nat) : List Event :=
  ((sink.refusal? before).map .writeFailed).toList

/-- What a read that finds no line leaves on record. -/
def Source.complaint (source : Source) : List Event :=
  (source.failure?.map .readFailed).toList

structure Console where
  source : Source
  sink : Sink
  printed : Array Line := #[]
  events : Array Event := #[]
  deriving DecidableEq, Repr

namespace Console

def record (console : Console) (event : Event) : Console :=
  { console with events := console.events.push event }

/-- Hands a line to the sink, and leaves an event if that refuses it. -/
def print (console : Console) (line : Line) : Console :=
  { console with
    printed := console.printed.push line
    events := console.events ++ (console.sink.complaint console.printed.size).toArray }

/-- The next line of the input and the console after reading it. -/
def readLine? (console : Console) : Option (String × Console) :=
  match console.source.next? with
  | none => none
  | some (line, rest) => some (line, { console with source := rest })

/-- The console after a read that found no line, with an event if that was a failure. -/
def starve (console : Console) : Console :=
  { console with events := console.events ++ console.source.complaint.toArray }

/-- The printed lines from a position on, as one text. -/
def textFrom (console : Console) (start : Nat) : String :=
  Text.unlines ((console.printed.toList.drop start).map Line.text)

/-- What a buffer holds of the lines printed from a position on; no other sink holds anything. -/
def capturedFrom (console : Console) (start : Nat) : String :=
  match console.sink with
  | .buffer => console.textFrom start
  | .terminal _ | .discard => ""

def captured (console : Console) : String :=
  console.capturedFrom 0

/-- The lines that the sink took. -/
def taken (console : Console) : List Line :=
  console.printed.toList.zipIdx.filterMap fun (line, before) =>
    if (console.sink.refusal? before).isNone then some line else none

/-- All that a terminal has shown; nothing shows through another sink. -/
def shown (console : Console) : String :=
  match console.sink with
  | .terminal _ => Text.unlines (console.taken.map Line.text)
  | .buffer | .discard => ""

/-- Printing hands the line over, and leaves at most one event. -/
theorem print_cases (console : Console) (line : Line) :
    console.print line = { console with printed := console.printed.push line } ∨
      ∃ reason, console.print line =
        { console with printed := console.printed.push line }.record (.writeFailed reason) := by
  unfold print Sink.complaint
  cases console.sink.refusal? console.printed.size with
  | none => exact Or.inl (by simp)
  | some reason => exact Or.inr ⟨reason, by simp [record]⟩

/-- A read that finds no line leaves at most one event. -/
theorem starve_cases (console : Console) :
    console.starve = console ∨ ∃ reason, console.starve = console.record (.readFailed reason) := by
  unfold starve Source.complaint
  cases console.source.failure? with
  | none => exact Or.inl (by simp)
  | some reason => exact Or.inr ⟨reason, by simp [record]⟩

theorem starve_of_unfailing {console : Console} (unfailing : console.source.failure? = none) :
    console.starve = console := by
  simp [starve, Source.complaint, unfailing]

/-- A sink that refuses no line has taken all of them. -/
theorem taken_of_accepting {console : Console}
    (accepting : ∀ before, console.sink.refusal? before = none) :
    console.taken = console.printed.toList := by
  simp only [taken, accepting, Option.isNone_none, if_true, List.filterMap_eq_map',
    List.zipIdx_map_fst]

theorem shown_of_accepting {console : Console} {device : Device}
    (given : console.sink = .terminal device)
    (accepting : ∀ before, device.refusal? before = none) :
    console.shown = console.textFrom 0 := by
  have taken := taken_of_accepting (fun before => by rw [given]; exact accepting before)
  simp only [shown, given, taken, textFrom, List.drop_zero]

end Console

end ImpLang
