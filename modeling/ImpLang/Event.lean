import ImpLang.Fault

/-!
# Events of a run

What a run leaves on record about itself besides its output: its start and end, every assignment,
every number read or refused, every loop that came to its end, and every failure of the input or of
the output. The counter of a `for` loop is not assigned to and leaves no event.
-/

namespace ImpLang

inductive LoopKind where
  | whileDo | repeatUntil | doWhile | forTo
  deriving DecidableEq, Repr

/-- The word a kind of loop begins with. -/
def LoopKind.label : LoopKind → String
  | .whileDo => "while"
  | .repeatUntil => "repeat"
  | .doWhile => "do"
  | .forTo => "for"

inductive Level where
  | trace | debug | warn
  deriving DecidableEq, Repr

def Level.label : Level → String
  | .trace => "TRACE"
  | .debug => "DEBUG"
  | .warn => "WARN"

inductive Event where
  | started (program : String) (declared : Nat)
  | assigned (target : Name) (value : Int64)
  | read (target : Name) (value : Int64)
  /-- A line, freed of white space at its ends, was no number. -/
  | malformed (defect : Numeral.Defect) (text : String)
  | readFailed (reason : String)
  | writeFailed (reason : String)
  | loopFinished (kind : LoopKind) (rounds : UInt64)
  | finished (bound : Nat)
  | failed (fault : Fault)
  deriving DecidableEq, Repr

namespace Event

def level : Event → Level
  | .assigned .. | .read .. => .trace
  | .malformed .. | .readFailed _ => .warn
  | _ => .debug

def title : Event → String
  | .started .. => "run"
  | .assigned .. => "assign"
  | .read .. => "read"
  | .malformed defect _ => "malformed number: " ++ defect.message
  | .readFailed reason => "stdin read failed: " ++ reason
  | .writeFailed reason => "stdout write failed: " ++ reason
  | .loopFinished .. => "loop finished"
  | .finished _ => "program finished"
  | .failed _ => "program failed"

/-- Whether an event opens the span in which the others lie. -/
def opensSpan : Event → Bool
  | .started .. => true
  | _ => false

def fields : Event → List (String × String)
  | .started program declared => [("program", program), ("vars", Numeral.render declared)]
  | .assigned target value | .read target value =>
    [("name", target.text), ("value", Numeral.render value.toInt)]
  | .malformed _ text => [("input", text)]
  | .readFailed _ | .writeFailed _ => []
  | .loopFinished kind rounds =>
    [("kind", kind.label), ("iterations", Numeral.render rounds.toNat)]
  | .finished bound => [("bindings", Numeral.render bound)]
  | .failed fault => [("error", fault.message)]

end Event

end ImpLang
