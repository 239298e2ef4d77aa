import ImpLang.Proofs.ExprReading

/-!
# Keywords

The words that mark the parts of a line. A proper name is an identifier that is no word of the
language, so no keyword is among the lexemes of an expression whose names are proper
(`Expr.render_bare`), and cutting a line at its keywords gives back the expressions between them.
-/

namespace ImpLang

/-- The words of the language: those of expressions, then those of statements. -/
def Name.words : List String :=
  ["true", "false", "not", "and", "if", "then", "else", "end", "while", "do", "repeat", "until",
    "for", "to", "read", "write", "skip"]

/-- An ASCII identifier that is none of the words of the language. -/
def Name.Proper (name : Name) : Prop :=
  isIdentifier name.text.toList = true ∧ name.text ∉ words

instance (name : Name) : Decidable name.Proper :=
  inferInstanceAs (Decidable (_ ∧ _))

theorem Name.Proper.readable {name : Name} (proper : name.Proper) : name.Readable := by
  refine ⟨proper.1, fun reserved => proper.2 ?_⟩
  have all : ∀ word ∈ Token.reserved, word ∈ words := by decide
  exact all _ reserved

/-- The words of statements, and the sign of assignment. -/
inductive Keyword where
  | skip | becomes | if_ | then_ | else_ | end_ | while_ | do_ | repeat_ | until_ | for_ | to_
  | read | write
  deriving DecidableEq, Repr

namespace Keyword

/-- How a keyword is written. -/
def text : Keyword → String
  | .skip => "skip"
  | .becomes => ":="
  | .if_ => "if"
  | .then_ => "then"
  | .else_ => "else"
  | .end_ => "end"
  | .while_ => "while"
  | .do_ => "do"
  | .repeat_ => "repeat"
  | .until_ => "until"
  | .for_ => "for"
  | .to_ => "to"
  | .read => "read"
  | .write => "write"

/-- A keyword in a line. -/
def lexeme (keyword : Keyword) : Lexeme :=
  .word keyword.text.toList

@[simp] theorem lexemes_text (keyword : Keyword) :
    lexemes keyword.text.toList = [keyword.lexeme] := by
  cases keyword <;> decide

/-- The keyword that a lexeme is. -/
def ofLexeme? (lexeme : Lexeme) : Option Keyword :=
  [.skip, .becomes, .if_, .then_, .else_, .end_, .while_, .do_, .repeat_, .until_, .for_, .to_,
    .read, .write].find? fun keyword => keyword.lexeme = lexeme

theorem ofLexeme?_lexeme (keyword : Keyword) : ofLexeme? keyword.lexeme = some keyword := by
  cases keyword <;> decide

theorem lexeme_of_ofLexeme? {keyword : Keyword} {lexeme : Lexeme}
    (found : ofLexeme? lexeme = some keyword) : keyword.lexeme = lexeme := by
  simpa using List.find?_some found

/-- Where an expression is expected a keyword would be a name, but not a proper one. -/
theorem name_of_token {keyword : Keyword} {token : Token}
    (read : Token.ofLexeme? keyword.lexeme = some token) :
    ∃ name : Name, token = .name name ∧ ¬ name.Proper := by
  have either : Token.ofLexeme? keyword.lexeme = none ∨
      Token.ofLexeme? keyword.lexeme = some (.name ⟨keyword.text⟩) := by
    cases keyword <;> decide
  have improper : ¬ Name.Proper ⟨keyword.text⟩ := by
    cases keyword <;> decide
  rcases either with none | name
  · rw [none] at read
    cases read
  · rw [name] at read
    cases read
    exact ⟨_, rfl, improper⟩

/-! ## Lines cut at their keywords -/

/-- No keyword is among the lexemes. -/
def Bare (lexemes : List Lexeme) : Prop :=
  ∀ lexeme ∈ lexemes, ofLexeme? lexeme = none

/-- The lexemes before the first keyword, and each keyword with the lexemes up to the next one. -/
def split : List Lexeme → List Lexeme × List (Keyword × List Lexeme)
  | [] => ([], [])
  | lexeme :: rest =>
    match ofLexeme? lexeme with
    | none => (lexeme :: (split rest).1, (split rest).2)
    | some keyword => ([], (keyword, (split rest).1) :: (split rest).2)

@[simp] theorem split_nil : split [] = ([], []) := rfl

@[simp] theorem split_lexeme (keyword : Keyword) (rest : List Lexeme) :
    split (keyword.lexeme :: rest) = ([], (keyword, (split rest).1) :: (split rest).2) := by
  simp [split, ofLexeme?_lexeme]

theorem split_append {before : List Lexeme} (bare : Bare before) (rest : List Lexeme) :
    split (before ++ rest) = (before ++ (split rest).1, (split rest).2) := by
  induction before with
  | nil => rfl
  | cons lexeme before ih =>
    have none := bare lexeme (by simp)
    have others := ih fun other member => bare other (by simp [member])
    simp [split, none, others]

theorem split_bare {lexemes : List Lexeme} (bare : Bare lexemes) :
    split lexemes = (lexemes, []) := by
  simpa using split_append bare []

end Keyword

/-! ## Names and expressions hold no keyword -/

/-- The names of a phrase are variables of its tree. -/
theorem Phrase.mem_vars {level : Nat} {tokens : List Token} {e : Expr} {name : Name}
    (phrase : Phrase level tokens e) (member : .name name ∈ tokens) : name ∈ e.vars := by
  induction phrase with
  | literal value => simp at member
  | name other => simpa [Expr.vars] using member
  | parens _ ih => exact ih (by simpa using member)
  | negation _ ih => exact ih (by simpa using member)
  | operation op _ _ leftIh rightIh =>
    rcases List.mem_append.mp member with left | right
    · exact Finset.mem_union_left _ (leftIh left)
    · exact Finset.mem_union_right _ (rightIh (by simpa using right))
  | looser _ _ ih => exact ih member

/-- Each lexeme of a text is one of its tokens. -/
theorem Token.exists_of_mem_lexemes {lexemes : List Lexeme} {tokens : List Token} {lexeme : Lexeme}
    (read : lexemes.mapM ofLexeme? = some tokens) (member : lexeme ∈ lexemes) :
    ∃ token ∈ tokens, ofLexeme? lexeme = some token := by
  induction lexemes generalizing tokens with
  | nil => cases member
  | cons first rest ih =>
    simp only [List.mapM_cons, Option.bind_eq_bind, Option.bind_eq_some_iff] at read
    obtain ⟨token, one, others, more, whole⟩ := read
    cases whole
    rcases List.mem_cons.mp member with rfl | later
    · exact ⟨token, by simp, one⟩
    · obtain ⟨other, found, same⟩ := ih more later
      exact ⟨other, by simp [found], same⟩

namespace Expr

variable {e : Expr}

theorem render_bare (proper : ∀ name ∈ e.vars, name.Proper) :
    Keyword.Bare (lexemes e.render.toList) := by
  obtain ⟨tokens, scanned, phrase⟩ :=
    render_spells fun name member => (proper name member).readable
  intro lexeme member
  obtain ⟨token, among, read⟩ := Token.exists_of_mem_lexemes scanned member
  -- A keyword would be read as a name, and the names of a phrase are those of its tree.
  by_contra marked
  obtain ⟨keyword, found⟩ := Option.ne_none_iff_exists'.mp marked
  rw [← Keyword.lexeme_of_ofLexeme? found] at read
  obtain ⟨name, rfl, improper⟩ := Keyword.name_of_token read
  exact improper (proper name (phrase.mem_vars among))

/-- The expression that lexemes spell. -/
def ofLexemes? (lexemes : List Lexeme) : Option Expr :=
  (lexemes.mapM Token.ofLexeme?).bind Expr.parse?

theorem ofLexemes?_render (proper : ∀ name ∈ e.vars, name.Proper) :
    ofLexemes? (lexemes e.render.toList) = some e := by
  obtain ⟨tokens, scanned, phrase⟩ :=
    render_spells fun name member => (proper name member).readable
  have read : (lexemes e.render.toList).mapM Token.ofLexeme? = some tokens := scanned
  simp [ofLexemes?, read, phrase.parse?_eq]

end Expr

namespace Name

variable {name : Name}

theorem Proper.lexemes_eq (proper : name.Proper) :
    lexemes name.text.toList = [.word name.text.toList] :=
  lexemes_word (identifier_solid proper.1) (identifier_ne_nil proper.1)

/-- A name is an expression, so it is no keyword. -/
theorem Proper.bare (proper : name.Proper) : Keyword.Bare (lexemes name.text.toList) := by
  have alone : ∀ other ∈ (Expr.var name).vars, other.Proper := by simpa [Expr.vars] using proper
  have text : (Expr.var name).render = name.text := rfl
  rw [← text]
  exact Expr.render_bare alone

/-- The name that lexemes spell. -/
def ofLexemes? : List Lexeme → Option Name
  | [.word chars] => some ⟨String.ofList chars⟩
  | _ => none

theorem ofLexemes?_text (proper : name.Proper) :
    ofLexemes? (lexemes name.text.toList) = some name := by
  simp [proper.lexemes_eq, ofLexemes?]

end Name

end ImpLang
