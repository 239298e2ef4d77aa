import ImpLang.Expr

/-!
# Expressions as text

Infix notation with one space around each operator and parentheses only where the tree would
otherwise be read differently: around an operand that binds looser than its place allows. Operators
group to the left, so a right operand has to bind tighter than its operator.
-/

namespace ImpLang.Expr

/-- How loosely negation binds: tighter than every binary operator. -/
def negationPrecedence : Nat := 1

def precedence : Expr → Nat
  | .lit _ | .var _ => 0
  | .not _ => negationPrecedence
  | .binary op _ _ => op.precedence

def bracket (needed : Bool) (text : String) : String :=
  if needed then "(" ++ text ++ ")" else text

/-- The text of an expression in a place where nothing may bind looser than the limit. -/
def renderWithin (limit : Nat) : Expr → String
  | .lit value => value.render
  | .var name => name.text
  | .not operand =>
    bracket (limit < negationPrecedence)
      (negationSymbol ++ " " ++ operand.renderWithin negationPrecedence)
  | .binary op left right =>
    bracket (limit < op.precedence)
      (left.renderWithin op.precedence ++ " " ++ op.symbol ++ " " ++
        right.renderWithin (op.precedence - 1))

def render (e : Expr) : String :=
  e.renderWithin e.precedence

end ImpLang.Expr
