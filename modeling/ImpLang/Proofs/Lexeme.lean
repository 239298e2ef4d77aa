import ImpLang.Proofs.Grammar

/-!
# Words and tokens

A text is cut at spaces and parentheses into lexemes, and a word is a token by its own form: a
numeral, with a minus sign directly before its digits if it has one, an identifier or the sign of an
operator. `lexemes_append` says that cutting at a separator is cutting both sides of it.
-/

namespace ImpLang

/-- A piece of a text between separators, or a parenthesis. -/
inductive Lexeme where
  | opening | closing
  | word (chars : List Char)
  deriving DecidableEq, Repr

namespace Lexeme

/-- What is left of a separator. Other characters are parts of words. -/
def marks? : Char → Option (List Lexeme)
  | ' ' => some []
  | '(' => some [.opening]
  | ')' => some [.closing]
  | _ => none

/-- Puts a word in front, unless it is empty. -/
def join : List Char → List Lexeme → List Lexeme
  | [], rest => rest
  | c :: chars, rest => .word (c :: chars) :: rest

/-- The word a text begins with, which may be empty, and the lexemes after it. -/
def cut : List Char → List Char × List Lexeme
  | [] => ([], [])
  | c :: text =>
    match marks? c with
    | some marks => ([], marks ++ join (cut text).1 (cut text).2)
    | none => (c :: (cut text).1, (cut text).2)

end Lexeme

/-- The lexemes of a text. -/
def lexemes (text : List Char) : List Lexeme :=
  Lexeme.join (Lexeme.cut text).1 (Lexeme.cut text).2

namespace Lexeme

theorem join_append (word : List Char) (first rest : List Lexeme) :
    join word (first ++ rest) = join word first ++ rest := by
  cases word <;> rfl

theorem cut_append {c : Char} {marks : List Lexeme} (separates : marks? c = some marks)
    (before after : List Char) :
    cut (before ++ c :: after) =
      ((cut before).1, (cut before).2 ++ (marks ++ lexemes after)) := by
  induction before with
  | nil => simp [cut, separates, lexemes]
  | cons d before ih =>
    cases found : marks? d with
    | none => simp [cut, found, ih]
    | some others => simp [cut, found, ih, join_append]

end Lexeme

open Lexeme

/-- A separator divides a text into parts that are cut by themselves. -/
theorem lexemes_append {c : Char} {marks : List Lexeme} (separates : marks? c = some marks)
    (before after : List Char) :
    lexemes (before ++ c :: after) = lexemes before ++ (marks ++ lexemes after) := by
  simp [lexemes, cut_append separates, join_append]

theorem lexemes_space (before after : List Char) :
    lexemes (before ++ ' ' :: after) = lexemes before ++ lexemes after := by
  have none : marks? ' ' = some [] := rfl
  rw [lexemes_append none, List.nil_append]

theorem lexemes_parens (text : List Char) :
    lexemes ('(' :: (text ++ [')'])) = .opening :: (lexemes text ++ [.closing]) := by
  have opens := lexemes_append (c := '(') rfl [] (text ++ [')'])
  have closes := lexemes_append (c := ')') rfl text []
  rwa [closes] at opens

theorem marks?_eq_none_iff {c : Char} : marks? c = none ↔ c ≠ ' ' ∧ c ≠ '(' ∧ c ≠ ')' := by
  unfold marks?
  split <;> simp_all

/-- A text without separators is one word. -/
theorem lexemes_word {word : List Char} (solid : ∀ c ∈ word, marks? c = none) (some : word ≠ []) :
    lexemes word = [.word word] := by
  have whole : cut word = (word, []) := by
    clear some
    induction word with
    | nil => rfl
    | cons c word ih =>
      simp [cut, solid c (by simp), ih fun d member => solid d (by simp [member])]
  cases word with
  | nil => exact absurd rfl some
  | cons c word => simp [lexemes, whole, join]

/-! ## Tokens of words -/

/-- Whether a word begins as a numeral does: with a digit, or with a minus sign directly before
one. -/
def isNumeral : List Char → Bool
  | '-' :: c :: _ => c.isDigit
  | c :: _ => c.isDigit
  | [] => false

/-- Whether a word is an identifier: a letter or an underscore, then letters, underscores and
digits. -/
def isIdentifier : List Char → Bool
  | [] => false
  | c :: rest => (c.isAlpha || c == '_') && rest.all fun c => c.isAlphanum || c == '_'

namespace Token

/-- The words of expressions that are not names. -/
def reserved : List String := ["true", "false", "not", "and"]

/-- An identifier as a token. -/
def ofIdentifier (text : String) : Token :=
  if text = "true" then .literal (.bool true)
  else if text = "false" then .literal (.bool false)
  else if text = "not" then .negation
  else if text = "and" then .operator .and
  else .name ⟨text⟩

/-- The token that a word is. -/
def ofWord? (word : List Char) : Option Token :=
  if isNumeral word then
    (Numeral.signed (String.ofList word)).toOption.map fun n => .literal (.int n)
  else if isIdentifier word then some (ofIdentifier (String.ofList word))
  else (BinaryOp.ofSymbol? (String.ofList word)).map .operator

/-- The token that a lexeme is. -/
def ofLexeme? : Lexeme → Option Token
  | .opening => some .opening
  | .closing => some .closing
  | .word chars => ofWord? chars

/-- The tokens of a text, if all its words are tokens. -/
def scan? (text : String) : Option (List Token) :=
  (lexemes text.toList).mapM ofLexeme?

end Token

/-! ## Signs, numerals and identifiers are tokens -/

/-- The characters of identifiers. -/
theorem mem_identifier {word : List Char} {c : Char} (identifier : isIdentifier word = true)
    (member : c ∈ word) : c.isAlphanum = true ∨ c = '_' := by
  cases word with
  | nil => cases member
  | cons d rest =>
    simp only [isIdentifier, Bool.and_eq_true, Bool.or_eq_true, beq_iff_eq, List.all_eq_true]
      at identifier
    rcases List.mem_cons.mp member with rfl | later
    · rcases identifier.1 with letter | underscore
      · exact Or.inl (by simp [Char.isAlphanum, letter])
      · exact Or.inr underscore
    · exact identifier.2 c later

theorem identifier_ne_nil {word : List Char} (identifier : isIdentifier word = true) :
    word ≠ [] := by
  rintro rfl
  cases identifier

theorem identifier_solid {word : List Char} (identifier : isIdentifier word = true) :
    ∀ c ∈ word, marks? c = none := by
  intro c member
  have either := mem_identifier identifier member
  rw [marks?_eq_none_iff]
  refine ⟨?_, ?_, ?_⟩ <;> rintro rfl <;> exact absurd either (by decide)

theorem not_isDigit_of_isAlpha {c : Char} (letter : c.isAlpha = true) : c.isDigit = false := by
  have nine : '9'.val.toNat = 57 := rfl
  have upper : 'A'.val.toNat = 65 := rfl
  have lower : 'a'.val.toNat = 97 := rfl
  have either : (decide ('A'.val ≤ c.val ∧ c.val ≤ 'Z'.val) ||
      decide ('a'.val ≤ c.val) && decide (c.val ≤ 'z'.val)) = true := letter
  have beyond : (decide ('0'.val ≤ c.val) && decide (c.val ≤ '9'.val)) = false := by
    simp only [Bool.or_eq_true, Bool.and_eq_true, decide_eq_true_eq, UInt32.le_iff_toNat_le]
      at either
    simp only [Bool.and_eq_false_iff, decide_eq_false_iff_not, UInt32.le_iff_toNat_le]
    omega
  exact beyond

theorem not_isNumeral_of_identifier {word : List Char} (identifier : isIdentifier word = true) :
    isNumeral word = false := by
  cases word with
  | nil => cases identifier
  | cons c rest =>
    simp only [isIdentifier, Bool.and_eq_true, Bool.or_eq_true, beq_iff_eq] at identifier
    have start := identifier.1
    unfold isNumeral
    split
    next same =>
      cases same
      exact absurd start (by decide)
    next same =>
      cases same
      rcases start with letter | rfl
      · exact not_isDigit_of_isAlpha letter
      · rfl
    next => rfl

/-- The characters of numerals. -/
theorem mem_numeral {n : Int} {c : Char} (member : c ∈ Numeral.chars n) :
    c = '-' ∨ c.isDigit = true := by
  cases n with
  | ofNat k => exact Or.inr (Numeral.isDigit_of_mem_digits member)
  | negSucc k =>
    rcases List.mem_cons.mp member with minus | digit
    · exact Or.inl minus
    · exact Or.inr (Numeral.isDigit_of_mem_digits digit)

theorem numeral_solid (n : Int) : ∀ c ∈ Numeral.chars n, marks? c = none := by
  intro c member
  have either := mem_numeral member
  rw [marks?_eq_none_iff]
  refine ⟨?_, ?_, ?_⟩ <;> rintro rfl <;> exact absurd either (by decide)

theorem numeral_ne_nil (n : Int) : Numeral.chars n ≠ [] := by
  cases n with
  | ofNat k => exact Numeral.digits_ne_nil k
  | negSucc k => exact List.cons_ne_nil _ _

theorem isNumeral_digits (n : Nat) : isNumeral (Numeral.digits n) = true ∧
    isNumeral ('-' :: Numeral.digits n) = true := by
  cases written : Numeral.digits n with
  | nil => exact absurd written (Numeral.digits_ne_nil n)
  | cons c rest =>
    have digit : c.isDigit = true := Numeral.isDigit_of_mem_digits (by rw [written]; simp)
    refine ⟨?_, digit⟩
    unfold isNumeral
    split
    next same =>
      cases same
      exact absurd digit (by decide)
    next same =>
      cases same
      exact digit
    next same => cases same

namespace Token

theorem ofWord?_numeral (n : Int64) :
    ofWord? (Numeral.chars n.toInt) = some (.literal (.int n)) := by
  have begins : isNumeral (Numeral.chars n.toInt) = true := by
    cases n.toInt with
    | ofNat k => exact (isNumeral_digits k).1
    | negSucc k => exact (isNumeral_digits (k + 1)).2
  have value : Numeral.signed (String.ofList (Numeral.chars n.toInt)) = .ok n :=
    Numeral.signed_render n
  simp [ofWord?, begins, value, Except.toOption]

theorem ofWord?_symbol (op : BinaryOp) : ofWord? op.symbol.toList = some (.operator op) := by
  cases op with
  | arith op => cases op <;> decide
  | compare op => cases op <;> decide
  | and => decide

theorem ofWord?_name {name : Name} (identifier : isIdentifier name.text.toList = true)
    (free : name.text ∉ reserved) : ofWord? name.text.toList = some (.name name) := by
  simp only [reserved, List.mem_cons, List.not_mem_nil, or_false, not_or] at free
  simp [ofWord?, not_isNumeral_of_identifier identifier, identifier, ofIdentifier, free]

end Token

end ImpLang
