import ImpLang.Proofs.Keyword
import ImpLang.Proofs.Quoting
import Mathlib.Data.List.Forall2

/-!
# Rows

A row is what one line of a statement says, without its indentation. It is written as keywords and
what stands between them, with spaces, and no two rows with proper names are written alike
(`Row.text_injective`): a row without quoted text is read back from its lexemes, and only quoted
text has quotes.
-/

namespace ImpLang

/-! ## Phrases with spaces between them -/

theorem lexemes_intercalate (phrases : List String) :
    lexemes (String.intercalate " " phrases).toList =
      phrases.flatMap fun phrase => lexemes phrase.toList := by
  induction phrases with
  | nil => rfl
  | cons first rest ih =>
    cases rest with
    | nil => simp
    | cons second rest =>
      rw [List.flatMap_cons, ← ih]
      simp [String.toList_intercalate, lexemes_space]

theorem mem_intercalate {separator : String} {phrases : List String} {c : Char}
    (member : c ∈ (String.intercalate separator phrases).toList) :
    c ∈ separator.toList ∨ ∃ phrase ∈ phrases, c ∈ phrase.toList := by
  induction phrases with
  | nil => simp at member
  | cons first rest ih =>
    cases rest with
    | nil => exact Or.inr ⟨first, by simp, by simpa [String.toList_intercalate] using member⟩
    | cons second rest =>
      have parts : c ∈ first.toList ∨ c ∈ separator.toList ∨
          c ∈ (String.intercalate separator (second :: rest)).toList := by
        simpa [String.toList_intercalate] using member
      rcases parts with here | between | later
      · exact Or.inr ⟨first, by simp, here⟩
      · exact Or.inl between
      · rcases ih later with between | ⟨phrase, among, inside⟩
        · exact Or.inl between
        · exact Or.inr ⟨phrase, by simp [among], inside⟩

/-! ## Characters that names and expressions lack -/

/-- The quote and the end of a line. -/
def Foreign (c : Char) : Prop :=
  c = '"' ∨ c = '\n'

theorem Name.Proper.foreign_notMem {name : Name} {c : Char} (proper : name.Proper)
    (strange : Foreign c) : c ∉ name.text.toList := by
  intro member
  have either := mem_identifier proper.1 member
  rcases strange with rfl | rfl <;> exact absurd either (by decide)

theorem Value.foreign_notMem {value : Value} {c : Char} (strange : Foreign c) :
    c ∉ value.render.toList := by
  cases value with
  | int n =>
    intro member
    have chars : (Value.int n).render.toList = Numeral.chars n.toInt := String.toList_ofList
    rw [chars] at member
    have either := mem_numeral member
    rcases strange with rfl | rfl <;> exact absurd either (by decide)
  | bool b => rcases strange with rfl | rfl <;> cases b <;> decide

theorem BinaryOp.foreign_notMem {op : BinaryOp} {c : Char} (strange : Foreign c) :
    c ∉ op.symbol.toList := by
  cases op with
  | arith op => rcases strange with rfl | rfl <;> cases op <;> decide
  | compare op => rcases strange with rfl | rfl <;> cases op <;> decide
  | and => rcases strange with rfl | rfl <;> decide

theorem Keyword.foreign_notMem {keyword : Keyword} {c : Char} (strange : Foreign c) :
    c ∉ keyword.text.toList := by
  rcases strange with rfl | rfl <;> cases keyword <;> decide

namespace Expr

variable {e : Expr} {c : Char}

theorem notMem_bracket {needed : Bool} {text : String} (strange : Foreign c)
    (inside : c ∉ text.toList) : c ∉ (bracket needed text).toList := by
  have apart : c ≠ '(' ∧ c ≠ ')' := by rcases strange with rfl | rfl <;> decide
  cases needed with
  | true => simp [bracket, inside, apart]
  | false => exact inside

theorem foreign_notMem_renderWithin (proper : ∀ name ∈ e.vars, name.Proper) (strange : Foreign c)
    (limit : Nat) : c ∉ (e.renderWithin limit).toList := by
  have space : c ≠ ' ' := by rcases strange with rfl | rfl <;> decide
  have negation : c ∉ negationSymbol.toList := by rcases strange with rfl | rfl <;> decide
  induction e generalizing limit with
  | lit value => exact Value.foreign_notMem strange
  | var name => exact (proper name (by simp [vars])).foreign_notMem strange
  | binary op left right leftIh rightIh =>
    have first := leftIh (fun name member => proper name (by simp [vars, member])) op.precedence
    have second :=
      rightIh (fun name member => proper name (by simp [vars, member])) (op.precedence - 1)
    apply notMem_bracket strange
    simp [first, second, space, BinaryOp.foreign_notMem strange]
  | not operand ih =>
    have inner := ih proper negationPrecedence
    apply notMem_bracket strange
    simp [inner, space, negation]

theorem foreign_notMem (proper : ∀ name ∈ e.vars, name.Proper) (strange : Foreign c) :
    c ∉ e.render.toList :=
  foreign_notMem_renderWithin proper strange e.precedence

end Expr

/-! ## Rows -/

/-- What a line says. -/
inductive Row where
  | skip
  | assign (target : Name) (value : Expr)
  /-- Begins a branch, with or without an alternative. -/
  | ifHead (cond : Expr)
  /-- Begins the alternative of a branch. -/
  | otherwise
  /-- Ends a branch or a loop that tests first. -/
  | close
  | whileHead (cond : Expr)
  | repeatHead
  | untilTail (cond : Expr)
  | doHead
  | whileTail (cond : Expr)
  | forHead (counter : Name) (low high : Expr)
  | read (target : Name)
  | write (value : Expr)
  | writeText (text : String)
  deriving DecidableEq, Repr

namespace Row

/-- The text of a row. -/
def text : Row → String
  | .skip => "skip"
  | .assign target value => target.text ++ " := " ++ value.render
  | .ifHead cond => "if " ++ cond.render ++ " then"
  | .otherwise => "else"
  | .close => "end"
  | .whileHead cond => "while " ++ cond.render ++ " do"
  | .repeatHead => "repeat"
  | .untilTail cond => "until " ++ cond.render
  | .doHead => "do"
  | .whileTail cond => "while " ++ cond.render
  | .forHead counter low high =>
    "for " ++ counter.text ++ " := " ++ low.render ++ " to " ++ high.render ++ " do"
  | .read target => "read " ++ target.text
  | .write value => "write " ++ value.render
  | .writeText text => "write " ++ Text.Quoted.quote text

/-- The keywords of a row, and what stands between them. -/
def phrases : Row → List String
  | .skip => [Keyword.skip.text]
  | .assign target value => [target.text, Keyword.becomes.text, value.render]
  | .ifHead cond => [Keyword.if_.text, cond.render, Keyword.then_.text]
  | .otherwise => [Keyword.else_.text]
  | .close => [Keyword.end_.text]
  | .whileHead cond => [Keyword.while_.text, cond.render, Keyword.do_.text]
  | .repeatHead => [Keyword.repeat_.text]
  | .untilTail cond => [Keyword.until_.text, cond.render]
  | .doHead => [Keyword.do_.text]
  | .whileTail cond => [Keyword.while_.text, cond.render]
  | .forHead counter low high =>
    [Keyword.for_.text, counter.text, Keyword.becomes.text, low.render, Keyword.to_.text,
      high.render, Keyword.do_.text]
  | .read target => [Keyword.read.text, target.text]
  | .write value => [Keyword.write.text, value.render]
  | .writeText text => [Keyword.write.text, Text.Quoted.quote text]

theorem text_eq_intercalate (row : Row) : row.text = String.intercalate " " row.phrases := by
  rw [← String.toList_inj]
  cases row <;> simp [text, phrases, Keyword.text]

/-- The names in a row. -/
def names : Row → Finset Name
  | .skip | .otherwise | .close | .repeatHead | .doHead | .writeText _ => ∅
  | .assign target value => insert target value.vars
  | .ifHead cond | .whileHead cond | .untilTail cond | .whileTail cond => cond.vars
  | .forHead counter low high => insert counter (low.vars ∪ high.vars)
  | .read target => {target}
  | .write value => value.vars

/-- All names are proper. -/
def Proper (row : Row) : Prop :=
  ∀ name ∈ row.names, name.Proper

/-- No text is quoted. -/
def Unquoted (row : Row) : Prop :=
  ∀ text, row ≠ .writeText text

/-- The row whose lexemes, cut at the keywords, are these. -/
def ofParts? : List Lexeme × List (Keyword × List Lexeme) → Option Row
  | ([], [(.skip, [])]) => some .skip
  | (target, [(.becomes, value)]) => do
    return .assign (← Name.ofLexemes? target) (← Expr.ofLexemes? value)
  | ([], [(.if_, cond), (.then_, [])]) => (Expr.ofLexemes? cond).map .ifHead
  | ([], [(.else_, [])]) => some .otherwise
  | ([], [(.end_, [])]) => some .close
  | ([], [(.while_, cond), (.do_, [])]) => (Expr.ofLexemes? cond).map .whileHead
  | ([], [(.repeat_, [])]) => some .repeatHead
  | ([], [(.until_, cond)]) => (Expr.ofLexemes? cond).map .untilTail
  | ([], [(.do_, [])]) => some .doHead
  | ([], [(.while_, cond)]) => (Expr.ofLexemes? cond).map .whileTail
  | ([], [(.for_, counter), (.becomes, low), (.to_, high), (.do_, [])]) => do
    return .forHead (← Name.ofLexemes? counter) (← Expr.ofLexemes? low) (← Expr.ofLexemes? high)
  | ([], [(.read, target)]) => (Name.ofLexemes? target).map .read
  | ([], [(.write, value)]) => (Expr.ofLexemes? value).map .write
  | _ => none

variable {row other : Row}

theorem assign_proper_iff {target : Name} {value : Expr} :
    (assign target value).Proper ↔ target.Proper ∧ ∀ name ∈ value.vars, name.Proper := by
  simp [Proper, names]

theorem forHead_proper_iff {counter : Name} {low high : Expr} :
    (forHead counter low high).Proper ↔
      counter.Proper ∧ (∀ name ∈ low.vars, name.Proper) ∧ ∀ name ∈ high.vars, name.Proper := by
  simp [Proper, names, or_imp, forall_and]

theorem read_proper_iff {target : Name} : (read target).Proper ↔ target.Proper := by
  simp [Proper, names]

/-- A row without quoted text is read back. -/
theorem ofParts?_text (proper : row.Proper) (unquoted : row.Unquoted) :
    ofParts? (Keyword.split (lexemes row.text.toList)) = some row := by
  rw [text_eq_intercalate, lexemes_intercalate]
  cases row with
  | skip | otherwise | close | repeatHead | doHead => rfl
  | ifHead cond | whileHead cond | untilTail cond | whileTail cond | write cond =>
    have bare := Expr.render_bare proper
    have read := Expr.ofLexemes?_render proper
    simp [phrases, Keyword.split_append bare, Keyword.split_bare bare, ofParts?, read]
  | read target =>
    have name := read_proper_iff.mp proper
    simp [phrases, Keyword.split_bare name.bare, ofParts?, Name.ofLexemes?_text name]
  | assign target value =>
    obtain ⟨name, vars⟩ := assign_proper_iff.mp proper
    simp [phrases, Keyword.split_append name.bare, Keyword.split_bare (Expr.render_bare vars),
      ofParts?, Name.ofLexemes?_text name, Expr.ofLexemes?_render vars]
  | forHead counter low high =>
    obtain ⟨name, lower, upper⟩ := forHead_proper_iff.mp proper
    simp [phrases, Keyword.split_append name.bare, Keyword.split_append (Expr.render_bare lower),
      Keyword.split_append (Expr.render_bare upper), ofParts?, Name.ofLexemes?_text name,
      Expr.ofLexemes?_render lower, Expr.ofLexemes?_render upper]
  | writeText text => exact absurd rfl (unquoted text)

theorem foreign_notMem_text {c : Char} (proper : row.Proper) (unquoted : row.Unquoted)
    (strange : Foreign c) : c ∉ row.text.toList := by
  rw [text_eq_intercalate]
  intro member
  have keyword : ∀ keyword : Keyword, c ∉ keyword.text.toList := fun _ =>
    Keyword.foreign_notMem strange
  have phrase : ∀ phrase ∈ row.phrases, c ∉ phrase.toList := by
    cases row with
    | skip | otherwise | close | repeatHead | doHead => simp [phrases, keyword]
    | ifHead cond | whileHead cond | untilTail cond | whileTail cond | write cond =>
      simp [phrases, keyword, Expr.foreign_notMem proper strange]
    | read target =>
      simp [phrases, keyword, (read_proper_iff.mp proper).foreign_notMem strange]
    | assign target value =>
      obtain ⟨name, vars⟩ := assign_proper_iff.mp proper
      simp [phrases, keyword, name.foreign_notMem strange, Expr.foreign_notMem vars strange]
    | forHead counter low high =>
      obtain ⟨name, lower, upper⟩ := forHead_proper_iff.mp proper
      simp [phrases, keyword, name.foreign_notMem strange, Expr.foreign_notMem lower strange,
        Expr.foreign_notMem upper strange]
    | writeText text => exact absurd rfl (unquoted text)
  rcases mem_intercalate member with space | ⟨part, among, inside⟩
  · rw [List.mem_singleton.mp space] at strange
    rcases strange with quote | newline
    · exact absurd quote (by decide)
    · exact absurd newline (by decide)
  · exact phrase part among inside

theorem not_unquoted_iff : ¬ row.Unquoted ↔ ∃ text, row = .writeText text := by
  simp [Unquoted]

/-- Quotes are where quoted text is. -/
theorem quote_mem_text_iff (proper : row.Proper) : '"' ∈ row.text.toList ↔ ¬ row.Unquoted := by
  constructor
  · intro member unquoted
    exact foreign_notMem_text proper unquoted (Or.inl rfl) member
  · intro quoted
    obtain ⟨text, rfl⟩ := not_unquoted_iff.mp quoted
    simp [Row.text, Text.Quoted.quote]

theorem newline_notMem_text (proper : row.Proper) : '\n' ∉ row.text.toList := by
  by_cases unquoted : row.Unquoted
  · exact foreign_notMem_text proper unquoted (Or.inr rfl)
  · obtain ⟨text, rfl⟩ := not_unquoted_iff.mp unquoted
    simp [Row.text, Text.Quoted.newline_notMem_quote]

/-- Rows with the same text are the same. -/
theorem text_injective (proper : row.Proper) (proper' : other.Proper)
    (same : row.text = other.text) : row = other := by
  have alike : row.Unquoted ↔ other.Unquoted := by
    have marks := quote_mem_text_iff proper
    rw [same, quote_mem_text_iff proper'] at marks
    exact (not_iff_not.mp marks).symm
  -- Quoted text may hold keywords of its own, so that its row is not read from lexemes.
  by_cases unquoted : row.Unquoted
  · have read := ofParts?_text proper unquoted
    rw [same, ofParts?_text proper' (alike.mp unquoted)] at read
    exact (Option.some.inj read).symm
  · obtain ⟨text, rfl⟩ := not_unquoted_iff.mp unquoted
    obtain ⟨text', rfl⟩ := not_unquoted_iff.mp (mt alike.mpr unquoted)
    rw [Text.Quoted.quote_injective ((String.append_right_inj _).mp same)]

/-! ## Lines that show rows -/

/-- No row begins with a space. -/
theorem head_text (proper : row.Proper) (chars : List Char) : row.text.toList ≠ ' ' :: chars := by
  cases row with
  | assign target value =>
    obtain ⟨name, -⟩ := assign_proper_iff.mp proper
    cases letters : target.text.toList with
    | nil => exact absurd letters (identifier_ne_nil name.1)
    | cons c rest =>
      have start : c ≠ ' ' := by
        rintro rfl
        exact absurd (mem_identifier name.1 (letters ▸ List.mem_cons_self)) (by decide)
      simp [text, letters, start]
  | _ => simp [text]

/-- The line is a row, moved to the right. -/
def Shows (line : String) (row : Row) : Prop :=
  ∃ depth, line.toList = List.replicate depth ' ' ++ row.text.toList

variable {line : String} {lines : List String} {rows others : List Row}

theorem Shows.indent (shown : Shows line row) : Shows ("  " ++ line) row := by
  obtain ⟨depth, chars⟩ := shown
  exact ⟨depth + 2, by simp [chars, List.replicate_succ]⟩

theorem Shows.newline_notMem (shown : Shows line row) (proper : row.Proper) :
    '\n' ∉ line.toList := by
  obtain ⟨depth, chars⟩ := shown
  simp [chars, newline_notMem_text proper]

theorem Shows.text_eq (shown : Shows line row) (proper : row.Proper) :
    line.toList.dropWhile (· == ' ') = row.text.toList := by
  obtain ⟨depth, chars⟩ := shown
  rw [chars, List.dropWhile_append_of_pos (by simp)]
  cases letters : row.text.toList with
  | nil => rfl
  | cons c rest =>
    have start : c ≠ ' ' := by
      rintro rfl
      exact head_text proper rest letters
    simp [start]

/-- A line shows no more than one row with proper names. -/
theorem Shows.unique (shown : Shows line row) (shown' : Shows line other) (proper : row.Proper)
    (proper' : other.Proper) : row = other := by
  have same := (shown.text_eq proper).symm.trans (shown'.text_eq proper')
  exact text_injective proper proper' (String.toList_inj.mp same)

theorem shows_one (row : Row) : List.Forall₂ Shows [row.text] [row] :=
  .cons ⟨0, rfl⟩ .nil

theorem shows_indent (shown : List.Forall₂ Shows lines rows) :
    List.Forall₂ Shows (Text.indent lines) rows := by
  rw [Text.indent, List.forall₂_map_left_iff]
  exact shown.imp fun _ _ => Shows.indent

/-- A row, a body that is moved to the right, and another row. -/
theorem shows_block (row : Row) (body : List.Forall₂ Shows lines rows) (other : Row) :
    List.Forall₂ Shows ([row.text] ++ Text.indent lines ++ [other.text])
      ([row] ++ rows ++ [other]) :=
  List.rel_append (List.rel_append (shows_one row) (shows_indent body)) (shows_one other)

theorem shows_unique (shown : List.Forall₂ Shows lines rows)
    (shown' : List.Forall₂ Shows lines others) (proper : ∀ row ∈ rows, row.Proper)
    (proper' : ∀ row ∈ others, row.Proper) : rows = others := by
  induction shown generalizing others with
  | nil =>
    cases shown'
    rfl
  | cons head _ ih =>
    cases shown' with
    | cons head' tail' =>
      rw [head.unique head' (proper _ (by simp)) (proper' _ (by simp)),
        ih tail' (fun row member => proper row (by simp [member]))
          fun row member => proper' row (by simp [member])]

theorem newline_notMem_of_shows (shown : List.Forall₂ Shows lines rows)
    (proper : ∀ row ∈ rows, row.Proper) : ∀ line ∈ lines, '\n' ∉ line.toList := by
  induction shown with
  | nil => simp
  | cons head _ ih =>
    have first := head.newline_notMem (proper _ (by simp))
    have rest := ih fun row member => proper row (by simp [member])
    simp only [List.mem_cons, forall_eq_or_imp]
    exact ⟨first, rest⟩

end Row

end ImpLang
