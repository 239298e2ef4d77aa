import ImpLang.Command

/-!
# The program `imp`

Gives a command its input line by line, and shows its output as it becomes known. A command that ran
out of input is run again with one more line: it then does again what it did before, so only what is
new is shown.
-/

namespace ImpLang.Terminal

partial def readLine (stream : IO.FS.Stream) (line : ByteArray) : IO ByteArray := do
  let byte ← stream.read 1
  if byte.isEmpty then
    return line
  else if byte.toList = [Source.newline] then
    return line ++ byte
  else
    readLine stream (line ++ byte)

/-- Runs the command line on the input read so far, of whose output so much has been shown. -/
partial def converse (arguments : List String) (fuel : Nat) (input : List UInt8) (shown : Nat) :
    IO UInt32 := do
  match Command.interpret fuel arguments input with
  | none => converse arguments (2 * fuel) input shown
  | some exit =>
    let out ← IO.getStdout
    out.putStr (String.ofList (exit.out.toList.drop shown))
    out.flush
    let line ← if exit.starved then readLine (← IO.getStdin) .empty else pure .empty
    if line.isEmpty then
      (← IO.getStderr).putStr exit.err
      return exit.code
    else
      converse arguments fuel (input ++ line.toList) exit.out.length

end ImpLang.Terminal

def main (arguments : List String) : IO UInt32 :=
  ImpLang.Terminal.converse arguments 4294967296 [] 0
