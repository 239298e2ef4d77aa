import ImpLang.Exec

/-!
# Options of a run

The arguments after the name of a program. They are taken in turn: a later setting replaces an
earlier one, and the first argument that is none ends the reading.
-/

namespace ImpLang

structure RunOptions where
  dumpState : Bool := false
  maxIterations : Option UInt64 := none
  deriving DecidableEq, Repr

namespace RunOptions

/-- Why an argument is refused. -/
inductive Refusal where
  | unknown (argument : String)
  | invalidLimit (text : String) (defect : Numeral.Defect)
  deriving DecidableEq, Repr

def Refusal.message : Refusal → String
  | .unknown argument => "unknown option '" ++ argument ++ "'"
  | .invalidLimit text defect =>
    "invalid --max-iterations value '" ++ text ++ "': " ++ defect.message

def dumpFlag : String := "--dump-state"

/-- What an argument that sets the limit begins with. -/
def limitFlag : String := "--max-iterations="

/-- The options after one more argument. -/
def add (options : RunOptions) (argument : String) : Except Refusal RunOptions :=
  if argument = dumpFlag then .ok { options with dumpState := true }
  else
    match limitFlag.toList.isPrefixOf? argument.toList with
    | none => .error (.unknown argument)
    | some rest =>
      let text := String.ofList rest
      match Numeral.unsigned text with
      | .ok limit => .ok { options with maxIterations := some limit }
      | .error defect => .error (.invalidLimit text defect)

def parse (arguments : List String) : Except Refusal RunOptions :=
  arguments.foldlM add {}

def settings (options : RunOptions) : Settings :=
  { maxIterations := options.maxIterations }

end RunOptions

end ImpLang
