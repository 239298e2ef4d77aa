import ImpLang.Catalog
import ImpLang.Command
import ImpLang.Console
import ImpLang.Event
import ImpLang.Exec
import ImpLang.Expr
import ImpLang.Expr.Eval
import ImpLang.Expr.Render
import ImpLang.Fault
import ImpLang.Loop
import ImpLang.Main
import ImpLang.Numeral
import ImpLang.Operator
import ImpLang.Operator.Apply
import ImpLang.Options
import ImpLang.Outcome
import ImpLang.Proofs.Accounting
import ImpLang.Proofs.Agreement
import ImpLang.Proofs.BigStep
import ImpLang.Proofs.BigStep.Completeness
import ImpLang.Proofs.BigStep.Soundness
import ImpLang.Proofs.Bracketing
import ImpLang.Proofs.Budget
import ImpLang.Proofs.CommandLine
import ImpLang.Proofs.Consumption
import ImpLang.Proofs.CountingLoop
import ImpLang.Proofs.Course
import ImpLang.Proofs.CourseRules
import ImpLang.Proofs.DumpReading
import ImpLang.Proofs.Effects
import ImpLang.Proofs.Ending
import ImpLang.Proofs.Euclid
import ImpLang.Proofs.ExactValue
import ImpLang.Proofs.Explanation
import ImpLang.Proofs.ExprReading
import ImpLang.Proofs.Factorial
import ImpLang.Proofs.Failure
import ImpLang.Proofs.Frame
import ImpLang.Proofs.Grammar
import ImpLang.Proofs.Independence
import ImpLang.Proofs.Keyword
import ImpLang.Proofs.Kind
import ImpLang.Proofs.Lexeme
import ImpLang.Proofs.Lifting
import ImpLang.Proofs.LoopInvariant
import ImpLang.Proofs.Mirror
import ImpLang.Proofs.NumberReading
import ImpLang.Proofs.NumeralForm
import ImpLang.Proofs.Observation
import ImpLang.Proofs.OptionReading
import ImpLang.Proofs.Outline
import ImpLang.Proofs.Parentheses
import ImpLang.Proofs.Parts
import ImpLang.Proofs.PostTestLoop
import ImpLang.Proofs.ProgramReading
import ImpLang.Proofs.Quoting
import ImpLang.Proofs.Range
import ImpLang.Proofs.ReadBack
import ImpLang.Proofs.Renaming
import ImpLang.Proofs.Rounds
import ImpLang.Proofs.Row
import ImpLang.Proofs.Safety
import ImpLang.Proofs.SampleEnding
import ImpLang.Proofs.Simulation
import ImpLang.Proofs.StackMachine
import ImpLang.Proofs.Static
import ImpLang.Proofs.Stream
import ImpLang.Proofs.Termination
import ImpLang.Proofs.Typing
import ImpLang.Proofs.Utf8
import ImpLang.Proofs.Variables
import ImpLang.Proofs.Wording
import ImpLang.Proofs.WriteHistory
import ImpLang.Reading
import ImpLang.Source
import ImpLang.Stmt
import ImpLang.Stmt.Render
import ImpLang.Store
import ImpLang.Text.Blank
import ImpLang.Text.Combining
import ImpLang.Text.Hidden
import ImpLang.Text.Printing
import ImpLang.Text.Ranges
import ImpLang.Text.Utf8
import ImpLang.Value
