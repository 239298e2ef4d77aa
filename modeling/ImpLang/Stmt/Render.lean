import ImpLang.Expr.Render
import ImpLang.Stmt

/-!
# Programs as text

One line for each simple statement, and for a compound one a line before and after its body, which
is indented by two spaces. A sequence shows only its parts.
-/

namespace ImpLang

namespace Stmt

def lines : Stmt → List String
  | .skip => ["skip"]
  | .assign target value => [target.text ++ " := " ++ value.render]
  | .seq first rest => first.lines ++ rest.lines
  | .ifThenElse cond yes no =>
    ["if " ++ cond.render ++ " then"] ++ Text.indent yes.lines ++
      ["else"] ++ Text.indent no.lines ++ ["end"]
  | .ifThen cond body => ["if " ++ cond.render ++ " then"] ++ Text.indent body.lines ++ ["end"]
  | .whileDo cond body => ["while " ++ cond.render ++ " do"] ++ Text.indent body.lines ++ ["end"]
  | .repeatUntil body cond => ["repeat"] ++ Text.indent body.lines ++ ["until " ++ cond.render]
  | .doWhile body cond => ["do"] ++ Text.indent body.lines ++ ["while " ++ cond.render]
  | .forTo counter low high body =>
    ["for " ++ counter.text ++ " := " ++ low.render ++ " to " ++ high.render ++ " do"] ++
      Text.indent body.lines ++ ["end"]
  | .readNum target => ["read " ++ target.text]
  | .writeNum value => ["write " ++ value.render]
  | .writeStr text => ["write " ++ Text.Quoted.quote text]

def render (s : Stmt) : String :=
  Text.unlines s.lines

/-- A sequence can be shown by a walk down its right spine. -/
theorem lines_eq_spine (s : Stmt) : s.lines = s.spine.flatMap lines := by
  induction s with
  | seq first rest _ restWalked => simp [lines, spine, restWalked]
  | _ => simp [spine]

end Stmt

namespace Program

/-- The line that declares variables, if there are any. -/
def declaration (vars : List Name) : List String :=
  if vars.isEmpty then [] else ["var " ++ String.intercalate ", " (vars.map Name.text)]

def lines (program : Program) : List String :=
  ["program " ++ program.name] ++ declaration program.vars ++ ["begin"] ++
    Text.indent program.body.lines ++ ["end"]

def render (program : Program) : String :=
  Text.unlines program.lines

end Program

end ImpLang
