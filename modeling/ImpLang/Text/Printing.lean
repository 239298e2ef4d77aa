import ImpLang.Text.Combining
import ImpLang.Text.Hidden

/-!
# Printed text

Texts made of lines, each of them closed by a newline, and texts between double quotes, on one line
and with every character recognisable: quotes, backslashes and the common controls are written as
two characters, whatever has no visible form of its own as its code point in hexadecimal, and
everything else as itself.
-/

namespace ImpLang.Text

def unlines (lines : List String) : String :=
  String.join (lines.map (· ++ "\n"))

def indent (lines : List String) : List String :=
  lines.map ("  " ++ ·)

namespace Quoted

/-- Whether a character stands for itself, unless it is one of the characters with an escape of
its own. -/
def isPlain (c : Char) : Bool :=
  !isCombining c && !isHidden c

def escape (c : Char) : List Char :=
  match c with
  | '\x00' => ['\\', '0']
  | '\t' => ['\\', 't']
  | '\r' => ['\\', 'r']
  | '\n' => ['\\', 'n']
  | '"' => ['\\', '"']
  | '\\' => ['\\', '\\']
  | c => if isPlain c then [c] else ['\\', 'u', '\x7b'] ++ Nat.toDigits 16 c.toNat ++ ['\x7d']

def encode (chars : List Char) : List Char :=
  chars.flatMap escape

def quote (text : String) : String :=
  String.ofList (['"'] ++ encode text.toList ++ ['"'])

end Quoted

end ImpLang.Text
