import ImpLang.Operator

/-!
# Faults

A fault is the reason why an evaluation or an execution stops. It is reported as a diagnostic, which
keeps the category and spells out the rest, and a report may carry notes on where it happened.
-/

namespace ImpLang

/-- The shape of a statement, without its parts. -/
inductive Form where
  | skip | assign | seq | ifThenElse | ifThen | whileDo | repeatUntil | doWhile | forTo
  | readNum | writeNum | writeStr
  deriving DecidableEq, Repr

/-- The words for a form in diagnostics. A form that is about a condition or a bound is named after
it, since that is what can be of a wrong kind. -/
def Form.describe : Form → String
  | .skip => "skip"
  | .assign => "assignment"
  | .seq => "sequence"
  | .ifThenElse => "if-then-else condition"
  | .ifThen => "if-then condition"
  | .whileDo => "while condition"
  | .repeatUntil => "repeat-until condition"
  | .doWhile => "do-while condition"
  | .forTo => "for bound"
  | .readNum => "read"
  | .writeNum => "write"
  | .writeStr => "write string"

/-- A place that asks for a value of one kind. -/
inductive Site where
  | operator (op : BinaryOp)
  | negation
  | assignment (target : Name)
  | named (words : String)
  deriving DecidableEq, Repr

/-- A statement that asks for a value goes by the words for its form. -/
def Site.statement (form : Form) : Site :=
  .named form.describe

def Site.describe : Site → String
  | .operator op => "operator `" ++ op.symbol ++ "`"
  | .negation => "operator `" ++ negationSymbol ++ "`"
  | .assignment target => "assignment to `" ++ target.text ++ "`"
  | .named words => words

/-- Why a program cannot go on. -/
inductive Fault where
  | unbound (name : Name)
  | mismatch (site : Site) (expected got : Kind)
  | divisionByZero (op : BinaryOp)
  | overflow (op : ArithOp)
  | inputClosed (target : Name)
  | budgetExceeded (limit : UInt64)
  deriving DecidableEq, Repr

/-- What is reported of a fault: its category, with everything else as text. -/
inductive Diagnostic where
  | unboundName (name : String)
  | typeMismatch (context expected got : String)
  | divisionByZero (op : BinaryOp)
  | integerOverflow (operation : String)
  | inputClosed (name : String)
  | iterationBudgetExceeded (limit : UInt64)
  deriving DecidableEq, Repr

def Diagnostic.message : Diagnostic → String
  | .unboundName name => "unbound name: " ++ name
  | .typeMismatch context expected got =>
    "type mismatch in " ++ context ++ ": expected " ++ expected ++ ", got " ++ got
  | .divisionByZero op => "division by zero in operator `" ++ op.symbol ++ "`"
  | .integerOverflow operation => "integer overflow in " ++ operation
  | .inputClosed name => "input closed while reading a number into " ++ name
  | .iterationBudgetExceeded limit =>
    "loop exceeded the iteration budget of " ++ Numeral.render limit.toNat

namespace Fault

def diagnostic : Fault → Diagnostic
  | .unbound name => .unboundName name.text
  | .mismatch site expected got => .typeMismatch site.describe expected.label got.label
  | .divisionByZero op => .divisionByZero op
  | .overflow op => .integerOverflow op.operation
  | .inputClosed target => .inputClosed target.text
  | .budgetExceeded limit => .iterationBudgetExceeded limit

def message (fault : Fault) : String :=
  fault.diagnostic.message

end Fault

/-- A diagnostic with a message, which is its wording unless another is given, and notes on its
circumstances, the innermost first. -/
structure Report where
  diagnostic : Diagnostic
  message : String := diagnostic.message
  notes : List String := []
  deriving DecidableEq, Repr

namespace Report

def withNote (report : Report) (note : String) : Report :=
  { report with notes := report.notes ++ [note] }

/-- The report as shown on a terminal, each note on a line of its own. -/
def render (report : Report) : String :=
  "error: " ++ report.message ++ String.join (report.notes.map ("\n  = note: " ++ ·))

end Report

def Fault.report (fault : Fault) : Report :=
  { diagnostic := fault.diagnostic }

namespace Value

def expectInt (site : Site) : Value → Except Fault Int64
  | .int n => .ok n
  | .bool _ => .error (.mismatch site .int .bool)

def expectBool (site : Site) : Value → Except Fault Bool
  | .bool b => .ok b
  | .int _ => .error (.mismatch site .bool .int)

end Value

end ImpLang
