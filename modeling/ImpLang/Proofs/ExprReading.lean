import ImpLang.Expr.Render
import ImpLang.Proofs.Lexeme
import ImpLang.Proofs.Variables

/-!
# Expressions can be read back

The text of an expression is cut into tokens that are a phrase of the grammar with the expression as
its tree, and with no other (`render_parses`). The limits that decide on parentheses correspond to
the levels of the grammar by `levelWithin`.
-/

namespace ImpLang

/-- Names that can stand in an expression without being taken for something else. -/
def Name.Readable (name : Name) : Prop :=
  isIdentifier name.text.toList = true ∧ name.text ∉ Token.reserved

instance (name : Name) : Decidable name.Readable :=
  inferInstanceAs (Decidable (_ ∧ _))

/-! ## Levels and limits -/

/-- The level of the grammar for the places with this limit. -/
def levelWithin (limit : Nat) : Nat :=
  if limit < 1 then 0
  else if limit < 3 then 1
  else if limit < 4 then 2
  else if limit < 7 then 3
  else if limit < 8 then 4
  else if limit < 12 then 5
  else loosestLevel

namespace BinaryOp

theorem levelWithin_precedence (op : BinaryOp) : levelWithin op.precedence = op.level := by
  cases op with
  | arith op => cases op <;> rfl
  | compare op => cases op <;> rfl
  | and => rfl

theorem levelWithin_pred (op : BinaryOp) : levelWithin (op.precedence - 1) = op.level - 1 := by
  cases op with
  | arith op => cases op <;> rfl
  | compare op => cases op <;> rfl
  | and => rfl

end BinaryOp

theorem levelWithin_mono {limit wider : Nat} (within : limit ≤ wider) :
    levelWithin limit ≤ levelWithin wider := by
  simp only [levelWithin, loosestLevel]
  grind

theorem levelWithin_le (limit : Nat) : levelWithin limit ≤ loosestLevel := by
  simp only [levelWithin, loosestLevel]
  grind

/-! ## Spelling -/

/-- The tokens of the text are a phrase of this level with this tree. -/
def Spells (level : Nat) (text : String) (e : Expr) : Prop :=
  ∃ tokens, Token.scan? text = some tokens ∧ Phrase level tokens e

namespace Spells

variable {level wider : Nat} {text other : String} {e a b : Expr}

theorem looser (spells : Spells level text e) (within : level ≤ wider) : Spells wider text e := by
  obtain ⟨tokens, scanned, phrase⟩ := spells
  exact ⟨tokens, scanned, .looser phrase within⟩

theorem word {token : Token} (solid : ∀ c ∈ text.toList, Lexeme.marks? c = none)
    (nonempty : text.toList ≠ []) (known : Token.ofWord? text.toList = some token)
    (phrase : Phrase level [token] e) : Spells level text e := by
  refine ⟨[token], ?_, phrase⟩
  simp [Token.scan?, lexemes_word solid nonempty, Token.ofLexeme?, known]

theorem literal (value : Value) : Spells 0 value.render (.lit value) := by
  cases value with
  | int n =>
    have chars : (Value.int n).render.toList = Numeral.chars n.toInt := String.toList_ofList
    refine .word ?_ ?_ ?_ (.literal (.int n)) <;> rw [chars]
    · exact numeral_solid n.toInt
    · exact numeral_ne_nil n.toInt
    · exact Token.ofWord?_numeral n
  | bool b =>
    have identifier : isIdentifier (Value.bool b).render.toList = true := by cases b <;> decide
    have known : Token.ofWord? (Value.bool b).render.toList = some (.literal (.bool b)) := by
      cases b <;> decide
    exact .word (identifier_solid identifier) (identifier_ne_nil identifier) known
      (.literal (.bool b))

theorem name {name : Name} (readable : name.Readable) : Spells 0 name.text (.var name) := by
  obtain ⟨identifier, free⟩ := readable
  exact .word (identifier_solid identifier) (identifier_ne_nil identifier)
    (Token.ofWord?_name identifier free) (.name name)

theorem parens (spells : Spells loosestLevel text e) : Spells 0 ("(" ++ text ++ ")") e := by
  obtain ⟨tokens, scanned, phrase⟩ := spells
  refine ⟨.opening :: (tokens ++ [.closing]), ?_, .parens phrase⟩
  have chars : ("(" ++ text ++ ")").toList = '(' :: (text.toList ++ [')']) := by simp
  rw [Token.scan?] at scanned
  simp [Token.scan?, chars, lexemes_parens, scanned, Token.ofLexeme?]

theorem negation (spells : Spells 1 text e) :
    Spells 1 (negationSymbol ++ " " ++ text) (.not e) := by
  obtain ⟨tokens, scanned, phrase⟩ := spells
  refine ⟨.negation :: tokens, ?_, .negation phrase⟩
  have chars : (negationSymbol ++ " " ++ text).toList =
      negationSymbol.toList ++ ' ' :: text.toList := by
    simp
  have sign : lexemes negationSymbol.toList = [.word negationSymbol.toList] := by decide
  have token : Token.ofWord? negationSymbol.toList = some .negation := by decide
  rw [Token.scan?] at scanned
  simp [Token.scan?, chars, lexemes_space, sign, scanned, Token.ofLexeme?, token]

theorem operation (op : BinaryOp) (first : Spells op.level text a)
    (second : Spells (op.level - 1) other b) :
    Spells op.level (text ++ " " ++ op.symbol ++ " " ++ other) (.binary op a b) := by
  obtain ⟨left, leftScanned, leftPhrase⟩ := first
  obtain ⟨right, rightScanned, rightPhrase⟩ := second
  refine ⟨left ++ .operator op :: right, ?_, .operation op leftPhrase rightPhrase⟩
  have chars : (text ++ " " ++ op.symbol ++ " " ++ other).toList =
      text.toList ++ ' ' :: (op.symbol.toList ++ ' ' :: other.toList) := by
    simp
  have sign : lexemes op.symbol.toList = [.word op.symbol.toList] := by
    cases op with
    | arith op => cases op <;> decide
    | compare op => cases op <;> decide
    | and => decide
  rw [Token.scan?] at leftScanned rightScanned
  simp [Token.scan?, chars, lexemes_space, sign, leftScanned, rightScanned, Token.ofLexeme?,
    Token.ofWord?_symbol]

/-- Parentheses make any phrase fit, and no phrase that fits needs them. -/
theorem bracket (spells : Spells level text e) (needed : Bool)
    (fits : needed = false → level ≤ wider) (known : level ≤ loosestLevel) :
    Spells wider (Expr.bracket needed text) e := by
  cases needed with
  | true => exact (spells.looser known).parens.looser (Nat.zero_le wider)
  | false => exact spells.looser (fits rfl)

end Spells

namespace Expr

variable {e : Expr}

theorem renderWithin_spells (readable : ∀ name ∈ e.vars, name.Readable) (limit : Nat) :
    Spells (levelWithin limit) (e.renderWithin limit) e := by
  induction e generalizing limit with
  | lit value => exact (Spells.literal value).looser (Nat.zero_le _)
  | var name => exact (Spells.name (readable name (by simp [vars]))).looser (Nat.zero_le _)
  | binary op left right leftSpells rightSpells =>
    have first := leftSpells (fun name member => readable name (by simp [vars, member]))
      op.precedence
    have second := rightSpells (fun name member => readable name (by simp [vars, member]))
      (op.precedence - 1)
    rw [op.levelWithin_precedence] at first
    rw [op.levelWithin_pred] at second
    refine (Spells.operation op first second).bracket _ (fun fits => ?_) op.level_le_loosest
    rw [← op.levelWithin_precedence]
    exact levelWithin_mono (by simpa using fits)
  | not operand operandSpells =>
    have inner : Spells 1 (operand.renderWithin negationPrecedence) operand :=
      operandSpells readable negationPrecedence
    refine inner.negation.bracket _ (fun fits => ?_) (by decide)
    have within : levelWithin negationPrecedence ≤ levelWithin limit :=
      levelWithin_mono (by simpa using fits)
    exact within

/-- The text of an expression spells it. -/
theorem render_spells (readable : ∀ name ∈ e.vars, name.Readable) :
    Spells loosestLevel e.render e :=
  (renderWithin_spells readable e.precedence).looser (levelWithin_le e.precedence)

end Expr

theorem Spells.unique {text : String} {e other : Expr} (spells : Spells loosestLevel text e)
    (spells' : Spells loosestLevel text other) : other = e := by
  obtain ⟨tokens, scanned, phrase⟩ := spells
  obtain ⟨tokens', scanned', phrase'⟩ := spells'
  rw [scanned] at scanned'
  cases scanned'
  exact phrase.unique phrase'

/-- The tokens of the text of an expression, whose names are identifiers and not words of
expressions themselves, are a phrase of the grammar with that expression as its only tree. So
different expressions have different texts. -/
theorem Expr.render_parses {e : Expr} (readable : ∀ name ∈ e.vars, name.Readable) :
    (∃ tokens, Token.scan? e.render = some tokens ∧ Expr.parse? tokens = some e ∧
      ∀ other, Phrase loosestLevel tokens other ↔ other = e) ∧
    ∀ other : Expr, (∀ name ∈ other.vars, name.Readable) → other.render = e.render → other = e := by
  have spells := render_spells readable
  constructor
  · obtain ⟨tokens, scanned, phrase⟩ := spells
    refine ⟨tokens, scanned, phrase.parse?_eq, fun other => ⟨phrase.unique, ?_⟩⟩
    rintro rfl
    exact phrase
  · intro other readable' same
    have spells' := render_spells readable'
    rw [same] at spells'
    exact spells.unique spells'

/-- Parentheses at the right of a difference, negative numbers beside the sign of subtraction and
negations of negations. -/
theorem Expr.render_parses_difference : ∃ e : Expr,
    e = .and (.not (.not (.eq (.named "x_1") (.bool true))))
      (.lt (.sub (.int (-5)) (.sub (.named "y") (.int (-9223372036854775808))))
        (.not (.named "y"))) ∧
    e.render = "not not (x_1 = true) and -5 - (y - -9223372036854775808) < not y" ∧
    (∀ name ∈ e.vars, name.Readable) ∧
    ∃ tokens, Token.scan? "not not (x_1 = true) and -5 - (y - -9223372036854775808) < not y" =
        some tokens ∧ Expr.parse? tokens = some e ∧
      ∀ other, Phrase loosestLevel tokens other ↔ other = e := by
  obtain ⟨e, known⟩ : ∃ e : Expr, e = .and (.not (.not (.eq (.named "x_1") (.bool true))))
      (.lt (.sub (.int (-5)) (.sub (.named "y") (.int (-9223372036854775808))))
        (.not (.named "y"))) := ⟨_, rfl⟩
  have text : e.render = "not not (x_1 = true) and -5 - (y - -9223372036854775808) < not y" := by
    rw [known]
    decide +kernel
  have readable : ∀ name ∈ e.vars, name.Readable := by
    rw [known]
    decide
  have parses := (render_parses readable).1
  rw [text] at parses
  exact ⟨e, known, text, readable, parses⟩

end ImpLang
