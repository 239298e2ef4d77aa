import ImpLang.Expr

/-!
# The grammar of expressions

`Phrase` gives the grammar of expressions over tokens: seven levels, of which negation is the second
and each later one has the operators of one strength, grouped to the left. `Expr.parse?` reads
tokens from left to right with a stack of what is still open, and finds the tree of every phrase
(`Phrase.parse?_eq`); so no tokens have two trees (`Phrase.unique`).
-/

namespace ImpLang

/-- The tokens of expressions. -/
inductive Token where
  | opening | closing
  | literal (value : Value)
  | name (name : Name)
  | operator (op : BinaryOp)
  | negation
  deriving DecidableEq, Repr

/-- The level of an operator in the grammar. Level 0 has literals, names and whatever is in
parentheses, and level 1 has negations. -/
def BinaryOp.level : BinaryOp → Nat
  | .arith .mul | .arith .div | .arith .mod => 2
  | .arith .add | .arith .sub => 3
  | .compare .lt | .compare .le | .compare .gt | .compare .ge => 4
  | .compare .eq => 5
  | .and => 6

/-- The level of all expressions. -/
def loosestLevel : Nat := 6

theorem BinaryOp.level_le_loosest (op : BinaryOp) : op.level ≤ loosestLevel := by
  cases op with
  | arith op => cases op <;> decide
  | compare op => cases op <;> decide
  | and => decide

theorem BinaryOp.one_lt_level (op : BinaryOp) : 1 < op.level := by
  cases op with
  | arith op => cases op <;> decide
  | compare op => cases op <;> decide
  | and => decide

/-- `Phrase level tokens e`: the tokens are a phrase of this level, and its tree is `e`. The left
operand of an operator may be of the same level, the right one is of a tighter level. -/
inductive Phrase : Nat → List Token → Expr → Prop
  | literal (value : Value) : Phrase 0 [.literal value] (.lit value)
  | name (name : Name) : Phrase 0 [.name name] (.var name)
  | parens {tokens : List Token} {e : Expr} (inner : Phrase loosestLevel tokens e) :
      Phrase 0 (.opening :: (tokens ++ [.closing])) e
  | negation {tokens : List Token} {e : Expr} (operand : Phrase 1 tokens e) :
      Phrase 1 (.negation :: tokens) (.not e)
  | operation (op : BinaryOp) {left right : List Token} {a b : Expr}
      (first : Phrase op.level left a) (second : Phrase (op.level - 1) right b) :
      Phrase op.level (left ++ .operator op :: right) (.binary op a b)
  | looser {level wider : Nat} {tokens : List Token} {e : Expr} (phrase : Phrase level tokens e)
      (within : level ≤ wider) : Phrase wider tokens e

/-! ## Reading tokens -/

/-- What waits for its last part to be complete. -/
inductive Frame where
  | parens
  | negation
  | operation (left : Expr) (op : BinaryOp)
  deriving DecidableEq, Repr

/-- How far the reading of tokens is. -/
inductive ParseState where
  /-- An operand comes next. -/
  | wants (frames : List Frame)
  /-- An operand has just ended. -/
  | has (e : Expr) (frames : List Frame)
  deriving DecidableEq, Repr

namespace ParseState

/-- Completes what binds at least as tight as the level. -/
def settle (level : Nat) (e : Expr) : List Frame → Expr × List Frame
  | [] => (e, [])
  | .parens :: frames => (e, .parens :: frames)
  | .negation :: frames => settle level (.not e) frames
  | .operation left op :: frames =>
    if op.level ≤ level then settle level (.binary op left e) frames
    else (e, .operation left op :: frames)

/-- Reads one token. -/
def next? : ParseState → Token → Option ParseState
  | .wants frames, .literal value => some (.has (.lit value) frames)
  | .wants frames, .name name => some (.has (.var name) frames)
  | .wants frames, .opening => some (.wants (.parens :: frames))
  | .wants frames, .negation => some (.wants (.negation :: frames))
  | .has e frames, .operator op =>
    match settle op.level e frames with
    | (left, frames) => some (.wants (.operation left op :: frames))
  | .has e frames, .closing =>
    match settle loosestLevel e frames with
    | (e, .parens :: frames) => some (.has e frames)
    | _ => none
  | _, _ => none

/-- The tree, if nothing is left open. -/
def finish? : ParseState → Option Expr
  | .has e frames =>
    match settle loosestLevel e frames with
    | (e, []) => some e
    | _ => none
  | .wants _ => none

end ParseState

/-- The tree of a list of tokens. -/
def Expr.parse? (tokens : List Token) : Option Expr :=
  (tokens.foldlM ParseState.next? (.wants [])).bind ParseState.finish?

namespace Phrase

open ParseState

variable {level : Nat} {tokens : List Token} {e : Expr}

/-- Nothing of this level, nor anything tighter, waits on top of the frames for an operand. -/
def Open (level : Nat) (frames : List Frame) : Prop :=
  ∀ (op : BinaryOp) (e : Expr), op.level ≤ level → settle op.level e frames = (e, frames)

theorem Open.tighter {tight : Nat} {frames : List Frame} (free : Open level frames)
    (within : tight ≤ level) : Open tight frames :=
  fun op e reaches => free op e (Nat.le_trans reaches within)

theorem Open.nil (level : Nat) : Open level [] :=
  fun _ _ _ => rfl

theorem Open.parens (level : Nat) (frames : List Frame) : Open level (.parens :: frames) :=
  fun _ _ _ => rfl

/-- A negation waits for its operand, in which no operator can be outermost. -/
theorem Open.negation (frames : List Frame) : Open 1 (.negation :: frames) := by
  intro op e reaches
  have looser := op.one_lt_level
  omega

/-- An operator waits for a right operand that binds tighter. -/
theorem Open.operation (op : BinaryOp) (left : Expr) (frames : List Frame) :
    Open (op.level - 1) (.operation left op :: frames) := by
  intro other e reaches
  have positive := op.one_lt_level
  have apart : ¬ op.level ≤ other.level := by omega
  simp [settle, apart]

/-- Reading a phrase leads to its tree, as soon as something at least as loose comes after it. -/
theorem reads (phrase : Phrase level tokens e) (frames : List Frame) (free : Open level frames) :
    ∃ last inner, tokens.foldlM next? (.wants frames) = some (.has last inner) ∧
      ∀ limit, level ≤ limit → settle limit last inner = settle limit e frames := by
  induction phrase generalizing frames with
  | literal value => exact ⟨.lit value, frames, rfl, fun _ _ => rfl⟩
  | name name => exact ⟨.var name, frames, rfl, fun _ _ => rfl⟩
  | parens _ ih =>
    obtain ⟨last, inner, read, settles⟩ := ih (.parens :: frames) (.parens _ frames)
    have closes := settles loosestLevel (Nat.le_refl _)
    refine ⟨_, frames, ?_, fun _ _ => rfl⟩
    simp [List.foldlM_cons, List.foldlM_append, next?, read, closes, settle]
  | negation _ ih =>
    obtain ⟨last, inner, read, settles⟩ := ih (.negation :: frames) (.negation frames)
    refine ⟨last, inner, ?_, fun limit within => ?_⟩
    · simp [List.foldlM_cons, next?, read]
    · rw [settles limit within, settle]
  | @operation op _ _ a b _ _ leftReads rightReads =>
    obtain ⟨last, inner, read, settles⟩ := leftReads frames free
    have left : settle op.level last inner = (a, frames) := by
      rw [settles op.level (Nat.le_refl _), free op a (Nat.le_refl _)]
    obtain ⟨last', inner', read', settles'⟩ :=
      rightReads (.operation a op :: frames) (.operation op a frames)
    refine ⟨last', inner', ?_, fun limit within => ?_⟩
    · simp [List.foldlM_append, List.foldlM_cons, next?, read, left, read']
    · have tighter : op.level - 1 ≤ limit := by omega
      rw [settles' limit tighter, settle, if_pos within]
  | looser _ within ih =>
    obtain ⟨last, inner, read, settles⟩ := ih frames (free.tighter within)
    exact ⟨last, inner, read, fun limit wider => settles limit (Nat.le_trans within wider)⟩

/-- A phrase is read as its tree. -/
theorem parse?_eq (phrase : Phrase loosestLevel tokens e) : Expr.parse? tokens = some e := by
  obtain ⟨last, inner, read, settles⟩ := phrase.reads [] (.nil _)
  have closes := settles loosestLevel (Nat.le_refl _)
  simp [Expr.parse?, read, finish?, closes, settle]

/-- The grammar is unambiguous. -/
theorem unique {other : Expr} (phrase : Phrase loosestLevel tokens e)
    (phrase' : Phrase loosestLevel tokens other) : other = e := by
  have same := phrase'.parse?_eq.symm.trans phrase.parse?_eq
  exact Option.some.inj same

end Phrase

end ImpLang
