import ImpLang.Catalog
import ImpLang.Options
import ImpLang.Stmt.Render

/-!
# The command line

`imp` lists the sample programs, shows one, or runs one on its standard input. What a command leaves
behind, its exit code and all it writes, is a function of its arguments and its input.
-/

namespace ImpLang

/-- What a command leaves behind. -/
structure Exit where
  code : UInt32 := 0
  out : String := ""
  err : String := ""
  /-- Whether it ended for want of input, so that more input could change the rest. -/
  starved : Bool := false
  deriving DecidableEq, Repr

def Exit.failure (message : String) : Exit :=
  { code := 1, err := message ++ "\n" }

inductive Command where
  | list
  | showProgram (name : String)
  | runProgram (name : String) (arguments : List String)
  | help
  deriving DecidableEq, Repr

namespace Command

def usage : String := Text.unlines [
  "IMP interpreter",
  "",
  "Usage: imp <command> [options]",
  "",
  "Commands:",
  "  list                 List the built-in programs",
  "  show <program>       Print a program",
  "  run <program>        Run a program (reads numbers from stdin)",
  "  help                 Show this help message",
  "",
  "Run options:",
  "  --dump-state         Print the final variable bindings",
  "  --max-iterations=N   Fail any loop that runs more than N times",
  "",
  "Set RUST_LOG (e.g. RUST_LOG=imp_eval=debug) for execution traces."]

/-- The command that arguments ask for, or the exit when they ask for none. Arguments that a command
has no use for are ignored. -/
def parse : List String → Except Exit Command
  | [] => .error { code := 1, out := usage }
  | "list" :: _ => .ok .list
  | ["show"] => .error (.failure "Usage: imp show <program>")
  | "show" :: name :: _ => .ok (.showProgram name)
  | ["run"] =>
    .error (.failure "Usage: imp run <program> [--dump-state] [--max-iterations=N]")
  | "run" :: name :: arguments => .ok (.runProgram name arguments)
  | "help" :: _ | "--help" :: _ | "-h" :: _ => .ok .help
  | other :: _ => .error { code := 1, out := usage, err := "Unknown command: " ++ other ++ "\n\n" }

def padded (width : Nat) (text : String) : String :=
  text ++ String.ofList (List.replicate (width - text.length) ' ')

def listing (sample : Sample) : String :=
  "  " ++ padded 12 sample.name ++ " " ++ sample.description

def unknownProgram (name : String) : Exit :=
  .failure ("unknown program '" ++ name ++ "' (see `imp list`)")

def runSample (fuel : Nat) (sample : Sample) (options : RunOptions) (stdin : List UInt8) :
    Option Exit :=
  match sample.program.run options.settings fuel { source := .stream stdin, sink := .terminal } with
  | .done store console =>
    some { out := console.shown ++ if options.dumpState then store.dump else "" }
  | .failed report console =>
    some
      { Exit.failure report.render with
        out := console.shown
        starved := report.diagnostic matches .inputClosed _ }
  | .outOfFuel => none

/-- What a command leaves behind, unless more fuel is needed to tell. -/
def execute (fuel : Nat) (stdin : List UInt8) : Command → Option Exit
  | .list => some { out := Text.unlines (Catalog.all.map listing) }
  | .showProgram name =>
    match Catalog.find? name with
    | none => some (unknownProgram name)
    | some sample => some { out := sample.program.render }
  | .runProgram name arguments =>
    match RunOptions.parse arguments with
    | .error refusal => some (.failure refusal.message)
    | .ok options =>
      match Catalog.find? name with
      | none => some (unknownProgram name)
      | some sample => runSample fuel sample options stdin
  | .help => some { out := usage }

def interpret (fuel : Nat) (arguments : List String) (stdin : List UInt8) : Option Exit :=
  match parse arguments with
  | .error exit => some exit
  | .ok command => command.execute fuel stdin

end Command

end ImpLang
