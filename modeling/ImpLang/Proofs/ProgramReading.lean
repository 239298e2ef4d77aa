import ImpLang.Proofs.Outline

/-!
# Programs can be read back

The text of a statement with proper names determines its outline, and the text of a program its
name, its declarations and the outline of its body (`render_eq_iff_outline`). Lines are found again
because no line holds a newline, and declared names because no name holds a comma.
-/

namespace ImpLang

/-! ## Parts with separators -/

/-- What stands before the first separator is found again. -/
theorem append_separator_inj {α : Type} [DecidableEq α] {separator : α}
    {before before' after after' : List α} (absent : separator ∉ before)
    (absent' : separator ∉ before')
    (same : before ++ separator :: after = before' ++ separator :: after') :
    before = before' ∧ after = after' := by
  have place := congrArg (List.idxOf separator) same
  rw [List.idxOf_append_of_notMem absent, List.idxOf_append_of_notMem absent',
    List.idxOf_cons_self, List.idxOf_cons_self, Nat.add_zero, Nat.add_zero] at place
  obtain ⟨first, rest⟩ := List.append_inj same place
  exact ⟨first, (List.cons.inj rest).2⟩

/-- Pieces that end with a separator, which they do not hold before, are found again. -/
theorem flatMap_separated_injective {separator : Char} {tail : List Char}
    {pieces others : List String} (whole : ∀ piece ∈ pieces, separator ∉ piece.toList)
    (whole' : ∀ piece ∈ others, separator ∉ piece.toList)
    (same : pieces.flatMap (fun piece => piece.toList ++ separator :: tail) =
      others.flatMap fun piece => piece.toList ++ separator :: tail) : pieces = others := by
  induction pieces generalizing others with
  | nil =>
    cases others with
    | nil => rfl
    | cons other others => simp at same
  | cons piece pieces ih =>
    cases others with
    | nil => simp at same
    | cons other others =>
      simp only [List.mem_cons, forall_eq_or_imp] at whole whole'
      simp only [List.flatMap_cons, List.append_assoc, List.cons_append] at same
      obtain ⟨first, rest⟩ := append_separator_inj whole.1 whole'.1 same
      rw [List.append_cancel_left_eq] at rest
      rw [String.toList_inj.mp first, ih whole.2 whole'.2 rest]

/-- Lines that hold no newline are found again in a text. -/
theorem Text.unlines_injective {lines others : List String}
    (whole : ∀ line ∈ lines, '\n' ∉ line.toList) (whole' : ∀ line ∈ others, '\n' ∉ line.toList)
    (same : unlines lines = unlines others) : lines = others := by
  have chars := congrArg String.toList same
  simp only [unlines, String.toList_join, List.flatMap_map, String.toList_append] at chars
  exact flatMap_separated_injective whole whole' chars

theorem Text.indent_injective : Function.Injective indent :=
  List.map_injective_iff.mpr fun _ _ same => (String.append_right_inj _).mp same

theorem intercalate_append (separator : String) {words : List String} (some : words ≠ []) :
    (String.intercalate separator words ++ separator).toList =
      words.flatMap fun word => word.toList ++ separator.toList := by
  induction words with
  | nil => exact absurd rfl some
  | cons word words ih =>
    cases words with
    | nil => simp
    | cons second words =>
      rw [List.flatMap_cons, ← ih (by simp)]
      simp

/-- Words that hold no comma are found again in a list with commas. -/
theorem intercalate_comma_injective {words others : List String}
    (whole : ∀ word ∈ words, ',' ∉ word.toList) (whole' : ∀ word ∈ others, ',' ∉ word.toList)
    (some : words ≠ []) (some' : others ≠ [])
    (same : String.intercalate ", " words = String.intercalate ", " others) : words = others := by
  have chars := intercalate_append ", " some
  rw [same, intercalate_append ", " some'] at chars
  exact flatMap_separated_injective whole whole' chars.symm

/-! ## Statements -/

namespace Stmt

/-- All names are proper. -/
def Proper (s : Stmt) : Prop :=
  ∀ name ∈ s.names, name.Proper

instance (s : Stmt) : Decidable s.Proper :=
  inferInstanceAs (Decidable (∀ name ∈ s.names, name.Proper))

variable {s t : Stmt}

theorem Proper.rows (proper : s.Proper) : ∀ row ∈ s.rows, row.Proper :=
  fun _ member name among => proper name (names_of_mem_rows member among)

theorem Proper.newline_notMem (proper : s.Proper) : ∀ line ∈ s.lines, '\n' ∉ line.toList :=
  Row.newline_notMem_of_shows s.lines_show proper.rows

theorem lines_eq_iff_outline (proper : s.Proper) (proper' : t.Proper) :
    s.lines = t.lines ↔ s.outline = t.outline := by
  constructor
  · intro same
    have shown := s.lines_show
    rw [same] at shown
    exact outline_eq_of_rows (Row.shows_unique shown t.lines_show proper.rows proper'.rows)
  · intro same
    rw [s.lines_eq_outline, t.lines_eq_outline, same]

end Stmt

/-! ## Programs -/

namespace Program

/-- The name is one line, and all names of variables are proper, whether declared or used. -/
structure Proper (program : Program) : Prop where
  name : '\n' ∉ program.name.toList
  vars : ∀ name ∈ program.vars, name.Proper
  body : program.body.Proper

theorem comma_notMem_texts {vars : List Name} (proper : ∀ name ∈ vars, name.Proper) :
    ∀ text ∈ vars.map Name.text, ',' ∉ text.toList := by
  intro text member inside
  obtain ⟨name, among, rfl⟩ := List.mem_map.mp member
  exact absurd (mem_identifier (proper name among).1 inside) (by decide)

theorem mem_declaration {vars : List Name} {line : String} (member : line ∈ declaration vars) :
    line = "var " ++ String.intercalate ", " (vars.map Name.text) := by
  unfold declaration at member
  split at member
  · cases member
  · exact List.mem_singleton.mp member

theorem newline_notMem_declaration {vars : List Name} (proper : ∀ name ∈ vars, name.Proper) :
    ∀ line ∈ declaration vars, '\n' ∉ line.toList := by
  intro line declared
  rw [mem_declaration declared]
  have names : '\n' ∉ (String.intercalate ", " (vars.map Name.text)).toList := by
    intro member
    rcases mem_intercalate member with between | ⟨text, among, inside⟩
    · exact absurd between (by decide)
    · obtain ⟨name, listed, rfl⟩ := List.mem_map.mp among
      exact (proper name listed).foreign_notMem (Or.inr rfl) inside
  simpa using names

theorem begin_notMem_declaration (vars : List Name) : "begin" ∉ declaration vars := by
  intro member
  have chars := congrArg String.toList (mem_declaration member)
  simp at chars

theorem declaration_injective {vars others : List Name} (proper : ∀ name ∈ vars, name.Proper)
    (proper' : ∀ name ∈ others, name.Proper) (same : declaration vars = declaration others) :
    vars = others := by
  cases vars with
  | nil =>
    cases others with
    | nil => rfl
    | cons other others => cases same
  | cons var vars =>
    cases others with
    | nil => cases same
    | cons other others =>
      have listed := (String.append_right_inj _).mp (List.cons.inj same).1
      have texts := intercalate_comma_injective (comma_notMem_texts proper)
        (comma_notMem_texts proper') (by simp) (by simp) listed
      exact List.map_injective_iff.mpr (fun _ _ => congrArg Name.mk) texts

variable {p q : Program}

theorem Proper.newline_notMem (proper : p.Proper) : ∀ line ∈ p.lines, '\n' ∉ line.toList := by
  intro line member
  simp only [lines, List.mem_append, List.mem_singleton] at member
  rcases member with (((rfl | declared) | rfl) | inner) | rfl
  · simp [proper.name]
  · exact newline_notMem_declaration proper.vars line declared
  · decide
  · obtain ⟨line, among, rfl⟩ := List.mem_map.mp inner
    simp [proper.body.newline_notMem line among]
  · decide

theorem lines_eq_iff (proper : p.Proper) (proper' : q.Proper) :
    p.lines = q.lines ↔ p.name = q.name ∧ p.vars = q.vars ∧ p.body.lines = q.body.lines := by
  constructor
  · intro same
    simp only [lines, List.append_assoc, List.cons_append, List.nil_append, List.cons.injEq,
      String.append_right_inj] at same
    obtain ⟨name, rest⟩ := same
    obtain ⟨declared, body⟩ := append_separator_inj (begin_notMem_declaration p.vars)
      (begin_notMem_declaration q.vars) rest
    have vars := declaration_injective proper.vars proper'.vars declared
    exact ⟨name, vars, Text.indent_injective (List.append_cancel_right body)⟩
  · rintro ⟨name, vars, body⟩
    simp only [lines, name, vars, body]

end Program

/-- The text of a statement with proper names determines it up to the bracketing of its sequences,
at every depth, and no more than that. The same goes for the body of a program, and the text of a
program also determines its name and the names it declares. -/
theorem render_eq_iff_outline :
    (∀ s t : Stmt, s.Proper → t.Proper → (s.render = t.render ↔ s.outline = t.outline)) ∧
    ∀ p q : Program, p.Proper → q.Proper →
      (p.render = q.render ↔
        p.name = q.name ∧ p.vars = q.vars ∧ p.body.outline = q.body.outline) := by
  constructor
  · intro s t proper proper'
    rw [← Stmt.lines_eq_iff_outline proper proper']
    exact ⟨Text.unlines_injective proper.newline_notMem proper'.newline_notMem,
      congrArg Text.unlines⟩
  · intro p q proper proper'
    rw [← Stmt.lines_eq_iff_outline proper.body proper'.body,
      ← Program.lines_eq_iff proper proper']
    exact ⟨Text.unlines_injective proper.newline_notMem proper'.newline_notMem,
      congrArg Text.unlines⟩

/-- Two bracketings have one text, and an alternative belongs to one of two branches. -/
theorem render_eq_iff_outline_bracketing :
    (∃ s t : Stmt,
      s = .whileDo (.named "go") (.seq (.seq (.readNum ⟨"x"⟩) .skip) (.writeStr "\"\n")) ∧
      t = .whileDo (.named "go") (.seq (.readNum ⟨"x"⟩) (.seq .skip (.writeStr "\"\n"))) ∧
      s.Proper ∧ t.Proper ∧ s.render = t.render ∧
      Program.render ⟨"p", [⟨"x"⟩, ⟨"go"⟩], s⟩ = Program.render ⟨"p", [⟨"x"⟩, ⟨"go"⟩], t⟩) ∧
    ∃ s t : Stmt,
      s = .ifThen (.named "a") (.ifThenElse (.named "b") .skip .skip) ∧
      t = .ifThenElse (.named "a") (.ifThen (.named "b") .skip) .skip ∧
      s.Proper ∧ t.Proper ∧ s.render ≠ t.render := by
  constructor
  · refine ⟨_, _, rfl, rfl, by decide, by decide, ?_, ?_⟩
    · exact (render_eq_iff_outline.1 _ _ (by decide) (by decide)).mpr rfl
    · exact (render_eq_iff_outline.2 _ _ ⟨by decide, by decide, by decide⟩
        ⟨by decide, by decide, by decide⟩).mpr ⟨rfl, rfl, rfl⟩
  · refine ⟨_, _, rfl, rfl, by decide, by decide, fun same => ?_⟩
    have outlines := (render_eq_iff_outline.1 _ _ (by decide) (by decide)).mp same
    simp [Stmt.outline] at outlines

end ImpLang
