import ImpLang.Numeral
import ImpLang.Text.Printing

/-!
# Names and values

A name is any text, the empty one included. An expression denotes an integer of 64 bits or a truth
value, and nothing converts one into the other; variables hold integers only.
-/

namespace ImpLang

structure Name where
  text : String
  deriving DecidableEq, Repr

/-- Names compare as their texts do, code point by code point, which is also the order of their
UTF-8 bytes. -/
instance : LE Name := ⟨fun a b => a.text ≤ b.text⟩

instance (a b : Name) : Decidable (a ≤ b) :=
  inferInstanceAs (Decidable (a.text ≤ b.text))

/-- A name in a form that makes every character visible. -/
def Name.inspect (name : Name) : String :=
  "Name(" ++ Text.Quoted.quote name.text ++ ")"

/-- The names of a list in ascending order, each once. -/
def Name.ascending (names : List Name) : List Name :=
  (names.mergeSort (fun a b => decide (a ≤ b))).eraseReps

inductive Kind where
  | int | bool
  deriving DecidableEq, Repr

def Kind.label : Kind → String
  | .int => "int"
  | .bool => "bool"

/-- A value, which is also what a literal of an expression stands for. -/
inductive Value where
  | int (n : Int64)
  | bool (b : Bool)
  deriving DecidableEq, Repr

namespace Value

def kind : Value → Kind
  | .int _ => .int
  | .bool _ => .bool

/-- The text of a value, in a program and in its output alike. -/
def render : Value → String
  | .int n => Numeral.render n.toInt
  | .bool true => "true"
  | .bool false => "false"

end Value

end ImpLang
