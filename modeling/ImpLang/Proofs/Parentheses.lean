import ImpLang.Proofs.Keyword

/-!
# Parentheses are written only where they must be

Every phrase of the grammar whose tree is a given expression has at least as many pairs of
parentheses as the text of the expression (`Phrase.opening_le`), since a place of one level takes a
phrase of a looser one only in parentheses. So no pair of the text can be left out, and no text that
is read as the expression has fewer.
-/

namespace ImpLang

/-! ## Tokens as text -/

namespace Token

/-- The text of a token with the spaces that go with it: one on either side of an operator and one
after a negation. -/
def text : Token → String
  | .opening => "("
  | .closing => ")"
  | .literal value => value.render
  | .name known => known.text
  | .operator op => " " ++ op.symbol ++ " "
  | .negation => negationSymbol ++ " "

/-- Tokens as one text. -/
def write (tokens : List Token) : String :=
  String.join (tokens.map text)

@[simp] theorem write_append (tokens others : List Token) :
    write (tokens ++ others) = write tokens ++ write others := by
  simp [write, String.join_append]

@[simp] theorem write_cons (token : Token) (tokens : List Token) :
    write (token :: tokens) = token.text ++ write tokens := by
  simp [write]

@[simp] theorem write_nil : write [] = "" := rfl

/-- Tokens in parentheses if they are needed. -/
def enclose (needed : Bool) (tokens : List Token) : List Token :=
  if needed then .opening :: (tokens ++ [.closing]) else tokens

theorem write_enclose (needed : Bool) (tokens : List Token) :
    write (enclose needed tokens) = Expr.bracket needed (write tokens) := by
  cases needed with
  | true => simp [enclose, Expr.bracket, text, String.append_assoc]
  | false => rfl

theorem count_opening_enclose (needed : Bool) (tokens : List Token) :
    (enclose needed tokens).count .opening = tokens.count .opening + needed.toNat := by
  cases needed <;> simp [enclose]

end Token

/-! ## The tokens of an expression -/

namespace Expr

/-- The tokens of an expression in a place for phrases of this level. -/
def tokensWithin (level : Nat) : Expr → List Token
  | .lit value => [.literal value]
  | .var name => [.name name]
  | .not operand => Token.enclose (level < 1) (.negation :: operand.tokensWithin 1)
  | .binary op left right =>
    Token.enclose (level < op.level)
      (left.tokensWithin op.level ++ .operator op :: right.tokensWithin (op.level - 1))

/-- The tokens of an expression that stands alone. -/
def tokens (e : Expr) : List Token :=
  e.tokensWithin loosestLevel

/-- The place of an expression decides on nothing but the outermost pair. -/
theorem exists_tokensWithin_eq (e : Expr) : ∃ (own : Nat) (inner : List Token),
    ∀ level, e.tokensWithin level = Token.enclose (level < own) inner := by
  cases e with
  | lit value => exact ⟨0, [.literal value], fun level => by simp [tokensWithin, Token.enclose]⟩
  | var name => exact ⟨0, [.name name], fun level => by simp [tokensWithin, Token.enclose]⟩
  | not operand => exact ⟨1, _, fun level => rfl⟩
  | binary op left right => exact ⟨op.level, _, fun level => rfl⟩

/-- A looser place never needs more pairs. -/
theorem opening_antitone (e : Expr) {level wider : Nat} (within : level ≤ wider) :
    (e.tokensWithin wider).count .opening ≤ (e.tokensWithin level).count .opening := by
  obtain ⟨own, inner, shape⟩ := e.exists_tokensWithin_eq
  simp only [shape, Token.count_opening_enclose, Nat.add_le_add_iff_left]
  by_cases far : wider < own
  · have near : level < own := Nat.lt_of_le_of_lt within far
    simp [far, near]
  · simp [far]

/-- No place needs more than one pair around what another place has. -/
theorem opening_le_succ (e : Expr) (level other : Nat) :
    (e.tokensWithin level).count .opening ≤ (e.tokensWithin other).count .opening + 1 := by
  obtain ⟨own, inner, shape⟩ := e.exists_tokensWithin_eq
  have atMost := (decide (level < own)).toNat_le
  simp only [shape, Token.count_opening_enclose]
  omega

end Expr

namespace BinaryOp

/-- Limits and levels decide alike on parentheses. -/
theorem levelWithin_lt_iff (op : BinaryOp) (limit : Nat) :
    levelWithin limit < op.level ↔ limit < op.precedence := by
  constructor
  · intro tighter
    by_contra loose
    have reaches := levelWithin_mono (Nat.not_lt.mp loose)
    rw [op.levelWithin_precedence] at reaches
    omega
  · intro tighter
    have below := levelWithin_mono (Nat.le_sub_one_of_lt tighter)
    rw [op.levelWithin_pred] at below
    have positive := op.one_lt_level
    omega

end BinaryOp

namespace Expr

/-- The tokens, one after the other, are the text. -/
theorem write_tokensWithin (e : Expr) (limit : Nat) :
    Token.write (e.tokensWithin (levelWithin limit)) = e.renderWithin limit := by
  induction e generalizing limit with
  | lit value => simp [tokensWithin, renderWithin, Token.text]
  | var name => simp [tokensWithin, renderWithin, Token.text]
  | not operand operandWrites =>
    have same : (levelWithin limit < 1) ↔ limit < negationPrecedence := by
      simp only [levelWithin, negationPrecedence, loosestLevel]
      grind
    have inner : Token.write (operand.tokensWithin 1) = operand.renderWithin negationPrecedence :=
      operandWrites negationPrecedence
    simp only [tokensWithin, renderWithin, Token.write_enclose, Token.write_cons, inner,
      Token.text, same, String.append_assoc]
  | binary op left right leftWrites rightWrites =>
    have first := leftWrites op.precedence
    have second := rightWrites (op.precedence - 1)
    rw [op.levelWithin_precedence] at first
    rw [op.levelWithin_pred] at second
    simp only [tokensWithin, renderWithin, Token.write_enclose, Token.write_append,
      Token.write_cons, first, second, Token.text, op.levelWithin_lt_iff, String.append_assoc]

theorem write_tokens (e : Expr) : Token.write e.tokens = e.render := by
  have alone : e.tokens = e.tokensWithin (levelWithin e.precedence) := by
    cases e with
    | lit value => rfl
    | var name => rfl
    | not operand => rfl
    | binary op left right =>
      have free : ¬ loosestLevel < op.level := Nat.not_lt.mpr op.level_le_loosest
      simp [tokens, tokensWithin, precedence, op.levelWithin_precedence, free]
  rw [alone, write_tokensWithin, render]

end Expr

/-! ## Phrases -/

namespace Phrase

variable {level own : Nat} {tokens : List Token} {e : Expr}

theorem enclose (phrase : Phrase own tokens e) (known : own ≤ loosestLevel) :
    Phrase level (Token.enclose (level < own) tokens) e := by
  by_cases needed : level < own
  · simpa [Token.enclose, needed] using (phrase.looser known).parens.looser (Nat.zero_le level)
  · simpa [Token.enclose, needed] using phrase.looser (Nat.not_lt.mp needed)

theorem ofTokensWithin (e : Expr) (level : Nat) : Phrase level (e.tokensWithin level) e := by
  induction e generalizing level with
  | lit value => exact (Phrase.literal value).looser (Nat.zero_le level)
  | var name => exact (Phrase.name name).looser (Nat.zero_le level)
  | not operand operandPhrase => exact (Phrase.negation (operandPhrase 1)).enclose (by decide)
  | binary op left right leftPhrase rightPhrase =>
    exact (Phrase.operation op (leftPhrase op.level) (rightPhrase (op.level - 1))).enclose
      op.level_le_loosest

/-- Parentheses come in pairs. -/
theorem closing_eq_opening (phrase : Phrase level tokens e) :
    tokens.count .closing = tokens.count .opening := by
  induction phrase with
  | literal | name => rfl
  | parens _ inner => simp [inner]
  | negation _ operand => simpa using operand
  | operation op _ _ first second => simp [first, second]
  | looser _ _ same => exact same

/-- A phrase has at least the pairs that the expression has in a place of its level. -/
theorem opening_le (phrase : Phrase level tokens e) :
    (e.tokensWithin level).count .opening ≤ tokens.count .opening := by
  induction phrase with
  | literal value => simp [Expr.tokensWithin]
  | name name => simp [Expr.tokensWithin]
  | @parens tokens e _ inner =>
    -- The pair makes up for the tightest place, which needs one more than the loosest.
    have outer := e.opening_le_succ 0 loosestLevel
    simp only [List.count_cons_self, List.count_append]
    omega
  | negation _ operand => simpa [Expr.tokensWithin, Token.enclose] using operand
  | operation op _ _ first second =>
    simpa [Expr.tokensWithin, Token.enclose] using Nat.add_le_add first second
  | @looser level wider tokens e _ within tighter =>
    exact Nat.le_trans (e.opening_antitone within) tighter

theorem mem_of_vars {name : Name} (phrase : Phrase level tokens e) (used : name ∈ e.vars) :
    .name name ∈ tokens := by
  induction phrase with
  | literal value => simp [Expr.vars] at used
  | name other => simpa [Expr.vars] using used
  | parens _ inner => simpa using inner used
  | negation _ operand => simpa using operand used
  | operation op _ _ first second =>
    simpa [Expr.vars] using (Finset.mem_union.mp used).imp first second
  | looser _ _ same => exact same used

end Phrase

/-! ## Texts -/

namespace Lexeme

theorem count_opening_join (word : List Char) (rest : List Lexeme) :
    (join word rest).count .opening = rest.count .opening := by
  cases word <;> simp [join]

theorem count_opening_cut (text : List Char) :
    (cut text).2.count .opening = text.count '(' := by
  induction text with
  | nil => rfl
  | cons c text ih =>
    cases found : marks? c with
    | none =>
      obtain ⟨_, other, _⟩ := marks?_eq_none_iff.mp found
      simp [cut, found, ih, List.count_cons_of_ne other]
    | some marks =>
      have own : marks.count .opening = [c].count '(' := by
        unfold marks? at found
        split at found <;> cases found <;> rfl
      simp only [cut, found, List.count_append, count_opening_join, ih, own]
      rw [← List.count_append, List.singleton_append]

end Lexeme

namespace Token

variable {pieces : List Lexeme} {tokens : List Token}

/-- A word is no parenthesis, and a name only if it is readable as one. -/
theorem ofWord?_cases {word : List Char} {token : Token} (known : ofWord? word = some token) :
    (∃ value, token = .literal value) ∨ (∃ own : Name, own.Readable ∧ token = .name own) ∨
      (∃ op, token = .operator op) ∨ token = .negation := by
  unfold ofWord? at known
  split at known
  · obtain ⟨n, _, rfl⟩ := Option.map_eq_some_iff.mp known
    exact Or.inl ⟨_, rfl⟩
  · split at known
    next identifier =>
      rw [Option.some.injEq, ofIdentifier] at known
      split_ifs at known with yes no negated joined
      · exact Or.inl ⟨_, known.symm⟩
      · exact Or.inl ⟨_, known.symm⟩
      · exact Or.inr (Or.inr (Or.inr known.symm))
      · exact Or.inr (Or.inr (Or.inl ⟨_, known.symm⟩))
      · refine Or.inr (Or.inl ⟨⟨String.ofList word⟩, ⟨?_, ?_⟩, known.symm⟩)
        · rwa [String.toList_ofList]
        · simp [reserved, yes, no, negated, joined]
    next =>
      obtain ⟨op, _, rfl⟩ := Option.map_eq_some_iff.mp known
      exact Or.inr (Or.inr (Or.inl ⟨op, rfl⟩))

/-- Tokens stand in the place of their lexemes. -/
theorem forall₂_of_scan (read : pieces.mapM ofLexeme? = some tokens) :
    List.Forall₂ (ofLexeme? · = some ·) pieces tokens := by
  induction pieces generalizing tokens with
  | nil =>
    cases read
    exact .nil
  | cons piece pieces ih =>
    simp only [List.mapM_cons, Option.bind_eq_bind, Option.bind_eq_some_iff] at read
    obtain ⟨token, one, others, more, whole⟩ := read
    cases whole
    exact .cons one (ih more)

theorem count_opening_eq (read : List.Forall₂ (ofLexeme? · = some ·) pieces tokens) :
    tokens.count .opening = pieces.count .opening := by
  induction read with
  | nil => rfl
  | @cons piece token _ _ one _ same =>
    have alike : token = .opening ↔ piece = .opening := by
      cases piece with
      | opening | closing =>
        cases one
        simp
      | word chars =>
        rcases ofWord?_cases one with ⟨_, rfl⟩ | ⟨_, _, rfl⟩ | ⟨_, rfl⟩ | rfl <;> simp
    simp only [List.count_cons, same, beq_iff_eq, alike]

theorem readable_of_mem {name : Name} (read : List.Forall₂ (ofLexeme? · = some ·) pieces tokens)
    (member : .name name ∈ tokens) : name.Readable := by
  induction read with
  | nil => cases member
  | @cons piece token _ _ one _ later =>
    rcases List.mem_cons.mp member with rfl | among
    · cases piece with
      | opening | closing => cases one
      | word chars =>
        rcases ofWord?_cases one with ⟨_, same⟩ | ⟨own, readable, same⟩ | ⟨_, same⟩ | same <;>
          cases same
        exact readable
    · exact later among

/-- The opening parentheses of a text are tokens, and no other token is one. -/
theorem count_opening_scan {text : String} (scanned : scan? text = some tokens) :
    tokens.count .opening = text.toList.count '(' := by
  rw [count_opening_eq (forall₂_of_scan scanned), lexemes, Lexeme.count_opening_join,
    Lexeme.count_opening_cut]

theorem count_text {token : Token} (readable : ∀ own, token = .name own → own.Readable) :
    token.text.toList.count '(' = [token].count .opening := by
  have solid {chars : List Char} (each : ∀ c ∈ chars, Lexeme.marks? c = none) :
      chars.count '(' = 0 := by
    refine List.count_eq_zero.mpr fun member => ?_
    cases each '(' member
  cases token with
  | opening | closing | negation => rfl
  | literal value =>
    cases value with
    | int n =>
      have chars : (Value.int n).render.toList = Numeral.chars n.toInt := String.toList_ofList
      rw [text, chars, solid (numeral_solid n.toInt)]
      rfl
    | bool b => cases b <;> rfl
  | name own => exact solid (identifier_solid (readable own rfl).1)
  | operator op =>
    cases op with
    | arith op => cases op <;> rfl
    | compare op => cases op <;> rfl
    | and => rfl

/-- Where names are readable, the parentheses of a written text are its tokens. -/
theorem count_write (readable : ∀ own, .name own ∈ tokens → own.Readable) :
    (write tokens).toList.count '(' = tokens.count .opening := by
  induction tokens with
  | nil => rfl
  | cons token tokens ih =>
    have first : token.text.toList.count '(' = [token].count .opening :=
      count_text fun own same => readable own (by simp [same])
    have rest := ih fun own member => readable own (by simp [member])
    rw [write_cons, String.toList_append, List.count_append, first, rest, ← List.count_append,
      List.singleton_append]

end Token

theorem Spells.readable {level : Nat} {text : String} {e : Expr} (spells : Spells level text e) :
    ∀ name ∈ e.vars, name.Readable := by
  obtain ⟨tokens, scanned, phrase⟩ := spells
  intro name used
  exact Token.readable_of_mem (Token.forall₂_of_scan scanned) (phrase.mem_of_vars used)

/-- No text that spells an expression has fewer parentheses than its own text. -/
theorem Spells.count_le {text : String} {e : Expr} (spells : Spells loosestLevel text e) :
    e.render.toList.count '(' ≤ text.toList.count '(' := by
  have readable := spells.readable
  obtain ⟨tokens, scanned, phrase⟩ := spells
  have own : Phrase loosestLevel e.tokens e := .ofTokensWithin e loosestLevel
  rw [← e.write_tokens, Token.count_write fun name member => readable name (own.mem_vars member),
    ← Token.count_opening_scan scanned]
  exact phrase.opening_le

theorem count_lt_of_removed {α : Type} [DecidableEq α] {whole before inside after : List α}
    {opening closing : α}
    (cut : whole = before ++ opening :: (inside ++ closing :: after)) :
    (before ++ (inside ++ after)).count opening < whole.count opening := by
  have apart := List.count_le_count_cons (a := opening) (b := closing) (l := after)
  rw [cut]
  simp only [List.count_append, List.count_cons_self]
  omega

/-- The text of an expression has the fewest parentheses of all that have it as their tree. It is
written from tokens which are a phrase of the expression; every phrase of the expression has at
least as many pairs, and every text that spells it at least as many parentheses. So without any one
pair neither the tokens nor the text are the expression's. -/
theorem Expr.render_fewest_parens (e : Expr) :
    Token.write e.tokens = e.render ∧ Phrase loosestLevel e.tokens e ∧
    (∀ tokens, Phrase loosestLevel tokens e →
      e.tokens.count .opening ≤ tokens.count .opening ∧
        tokens.count .closing = tokens.count .opening) ∧
    (∀ before inside after, e.tokens = before ++ .opening :: (inside ++ .closing :: after) →
      ¬ Phrase loosestLevel (before ++ (inside ++ after)) e) ∧
    (∀ text, Spells loosestLevel text e →
      e.render.toList.count '(' ≤ text.toList.count '(') ∧
    ∀ before inside after, e.render.toList = before ++ '(' :: (inside ++ ')' :: after) →
      ¬ Spells loosestLevel (String.ofList (before ++ (inside ++ after))) e := by
  refine ⟨e.write_tokens, .ofTokensWithin e loosestLevel,
    fun tokens phrase => ⟨phrase.opening_le, phrase.closing_eq_opening⟩, ?_,
    fun text spells => spells.count_le, ?_⟩
  · intro before inside after cut phrase
    exact Nat.not_lt.mpr phrase.opening_le (count_lt_of_removed cut)
  · intro before inside after cut spells
    have least := spells.count_le
    rw [String.toList_ofList] at least
    exact Nat.not_lt.mpr least (count_lt_of_removed cut)

example :
    (Expr.not (.and (.sub (.named "a") (.sub (.named "b") (.named "c"))) (.bool true))).render =
      "not (a - (b - c) and true)" := by
  decide +kernel

end ImpLang
