import ImpLang.Proofs.Row
import ImpLang.Stmt.Render

/-!
# Outlines

The outline of a statement is what is left of its tree when every sequence, at every depth, is the
list of its parts. The lines of a statement show its rows (`Stmt.lines_show`), and the rows are
assembled to the outline again with a stack of the bodies that are open (`Stmt.assemble_rows`). In
the other direction the outline has all that the lines show (`Stmt.lines_eq_outline`).
-/

namespace ImpLang

/-- A statement that is no sequence, with lists for the sequences in it. -/
inductive Outline where
  | skip
  | assign (target : Name) (value : Expr)
  | ifThenElse (cond : Expr) (yes no : List Outline)
  | ifThen (cond : Expr) (body : List Outline)
  | whileDo (cond : Expr) (body : List Outline)
  | repeatUntil (body : List Outline) (cond : Expr)
  | doWhile (body : List Outline) (cond : Expr)
  | forTo (counter : Name) (low high : Expr) (body : List Outline)
  | readNum (target : Name)
  | writeNum (value : Expr)
  | writeStr (text : String)
  deriving Repr

namespace Stmt

/-- The parts of a statement that are no sequences, from left to right, with lists in place of the
sequences in each. -/
def outline : Stmt → List Outline
  | .skip => [.skip]
  | .assign target value => [.assign target value]
  | .seq first rest => first.outline ++ rest.outline
  | .ifThenElse cond yes no => [.ifThenElse cond yes.outline no.outline]
  | .ifThen cond body => [.ifThen cond body.outline]
  | .whileDo cond body => [.whileDo cond body.outline]
  | .repeatUntil body cond => [.repeatUntil body.outline cond]
  | .doWhile body cond => [.doWhile body.outline cond]
  | .forTo counter low high body => [.forTo counter low high body.outline]
  | .readNum target => [.readNum target]
  | .writeNum value => [.writeNum value]
  | .writeStr text => [.writeStr text]

/-- The rows of a statement. -/
def rows : Stmt → List Row
  | .skip => [.skip]
  | .assign target value => [.assign target value]
  | .seq first rest => first.rows ++ rest.rows
  | .ifThenElse cond yes no => [.ifHead cond] ++ yes.rows ++ [.otherwise] ++ no.rows ++ [.close]
  | .ifThen cond body => [.ifHead cond] ++ body.rows ++ [.close]
  | .whileDo cond body => [.whileHead cond] ++ body.rows ++ [.close]
  | .repeatUntil body cond => [.repeatHead] ++ body.rows ++ [.untilTail cond]
  | .doWhile body cond => [.doHead] ++ body.rows ++ [.whileTail cond]
  | .forTo counter low high body => [.forHead counter low high] ++ body.rows ++ [.close]
  | .readNum target => [.read target]
  | .writeNum value => [.write value]
  | .writeStr text => [.writeText text]

end Stmt

/-! ## Lines and rows -/

namespace Stmt

theorem lines_show (s : Stmt) : List.Forall₂ Row.Shows s.lines s.rows := by
  induction s with
  | skip => exact Row.shows_one .skip
  | assign target value => exact Row.shows_one (.assign target value)
  | readNum target => exact Row.shows_one (.read target)
  | writeNum value => exact Row.shows_one (.write value)
  | writeStr text => exact Row.shows_one (.writeText text)
  | seq first rest firstIh restIh => exact List.rel_append firstIh restIh
  | ifThenElse cond yes no yesIh noIh =>
    have branch := List.rel_append (Row.shows_block (.ifHead cond) yesIh .otherwise)
      (Row.shows_indent noIh)
    exact List.rel_append branch (Row.shows_one .close)
  | ifThen cond body ih => exact Row.shows_block (.ifHead cond) ih .close
  | whileDo cond body ih => exact Row.shows_block (.whileHead cond) ih .close
  | repeatUntil body cond ih => exact Row.shows_block .repeatHead ih (.untilTail cond)
  | doWhile body cond ih => exact Row.shows_block .doHead ih (.whileTail cond)
  | forTo counter low high body ih => exact Row.shows_block (.forHead counter low high) ih .close

theorem names_of_mem_rows {s : Stmt} {row : Row} (member : row ∈ s.rows) :
    row.names ⊆ s.names := by
  induction s with
  | skip | assign target value | readNum target | writeNum value | writeStr text =>
    rw [List.mem_singleton.mp member]
    exact Finset.Subset.refl _
  | seq first rest firstIh restIh =>
    rcases List.mem_append.mp member with left | right
    · exact (firstIh left).trans Finset.subset_union_left
    · exact (restIh right).trans Finset.subset_union_right
  | ifThenElse cond yes no yesIh noIh =>
    simp only [rows, List.mem_append, List.mem_singleton] at member
    rcases member with (((rfl | left) | rfl) | right) | rfl
    · exact Finset.subset_union_left
    · exact (yesIh left).trans (Finset.subset_union_left.trans Finset.subset_union_right)
    · exact Finset.empty_subset _
    · exact (noIh right).trans (Finset.subset_union_right.trans Finset.subset_union_right)
    · exact Finset.empty_subset _
  | ifThen cond body ih | whileDo cond body ih | repeatUntil body cond ih | doWhile body cond ih =>
    simp only [rows, List.mem_append, List.mem_singleton] at member
    rcases member with (rfl | inner) | rfl
    · simp [Row.names, names]
    · exact (ih inner).trans Finset.subset_union_right
    · simp [Row.names, names]
  | forTo counter low high body ih =>
    simp only [rows, List.mem_append, List.mem_singleton] at member
    rcases member with (rfl | inner) | rfl
    · intro name
      simp only [Row.names, names, Finset.mem_insert, Finset.mem_union]
      tauto
    · have body := ih inner
      intro name among
      simp [names, body among]
    · exact Finset.empty_subset _

end Stmt

/-! ## Assembling rows -/

/-- A compound statement whose last body is not complete. -/
inductive Opening where
  | ifThen (cond : Expr)
  | ifThenElse (cond : Expr) (yes : List Outline)
  | whileDo (cond : Expr)
  | repeatUntil
  | doWhile
  | forTo (counter : Name) (low high : Expr)
  deriving Repr

/-- What has been assembled so far: the parts of the innermost body, and for each compound statement
around it the parts before it in its own body. -/
structure Assembly where
  opened : List (Opening × List Outline)
  parts : List Outline
  deriving Repr

namespace Assembly

/-- Adds a complete part to the innermost body. -/
def add (assembly : Assembly) (part : Outline) : Assembly :=
  { assembly with parts := assembly.parts ++ [part] }

/-- Begins a body. -/
def enter (assembly : Assembly) (opening : Opening) : Assembly :=
  ⟨(opening, assembly.parts) :: assembly.opened, []⟩

/-- Takes in a row. -/
def next? (assembly : Assembly) : Row → Option Assembly
  | .skip => some (assembly.add .skip)
  | .assign target value => some (assembly.add (.assign target value))
  | .read target => some (assembly.add (.readNum target))
  | .write value => some (assembly.add (.writeNum value))
  | .writeText text => some (assembly.add (.writeStr text))
  | .ifHead cond => some (assembly.enter (.ifThen cond))
  | .whileHead cond => some (assembly.enter (.whileDo cond))
  | .repeatHead => some (assembly.enter .repeatUntil)
  | .doHead => some (assembly.enter .doWhile)
  | .forHead counter low high => some (assembly.enter (.forTo counter low high))
  | .otherwise =>
    match assembly.opened with
    | (.ifThen cond, before) :: opened =>
      some ⟨(.ifThenElse cond assembly.parts, before) :: opened, []⟩
    | _ => none
  | .close =>
    match assembly.opened with
    | (.ifThen cond, before) :: opened => some (add ⟨opened, before⟩ (.ifThen cond assembly.parts))
    | (.ifThenElse cond yes, before) :: opened =>
      some (add ⟨opened, before⟩ (.ifThenElse cond yes assembly.parts))
    | (.whileDo cond, before) :: opened =>
      some (add ⟨opened, before⟩ (.whileDo cond assembly.parts))
    | (.forTo counter low high, before) :: opened =>
      some (add ⟨opened, before⟩ (.forTo counter low high assembly.parts))
    | _ => none
  | .untilTail cond =>
    match assembly.opened with
    | (.repeatUntil, before) :: opened =>
      some (add ⟨opened, before⟩ (.repeatUntil assembly.parts cond))
    | _ => none
  | .whileTail cond =>
    match assembly.opened with
    | (.doWhile, before) :: opened =>
      some (add ⟨opened, before⟩ (.doWhile assembly.parts cond))
    | _ => none

end Assembly

namespace Stmt

variable {s t : Stmt}

/-- The rows of a statement add its outline to whatever has been assembled before. -/
theorem assemble_rows (s : Stmt) (opened : List (Opening × List Outline)) (parts : List Outline) :
    s.rows.foldlM Assembly.next? ⟨opened, parts⟩ = some ⟨opened, parts ++ s.outline⟩ := by
  -- A body is read with an empty list of parts, inside whatever is open where it begins.
  induction s generalizing opened parts with
  | skip => rfl
  | assign target value => rfl
  | readNum target => rfl
  | writeNum value => rfl
  | writeStr text => rfl
  | seq first rest firstIh restIh => simp [rows, outline, List.foldlM_append, firstIh, restIh]
  | ifThenElse cond yes no yesIh noIh =>
    simp [rows, outline, List.foldlM_append, Assembly.next?, Assembly.enter, Assembly.add, yesIh,
      noIh]
  | ifThen cond body ih | whileDo cond body ih | repeatUntil body cond ih | doWhile body cond ih
  | forTo counter low high body ih =>
    simp [rows, outline, List.foldlM_append, Assembly.next?, Assembly.enter, Assembly.add, ih]

/-- Statements with the same rows have the same outline. -/
theorem outline_eq_of_rows (same : s.rows = t.rows) : s.outline = t.outline := by
  have first := assemble_rows s [] []
  rw [same, assemble_rows t [] []] at first
  simpa using first.symm

end Stmt

/-! ## The lines of an outline -/

namespace Outline

mutual

/-- The lines of a statement with this outline. -/
def lines : Outline → List String
  | .skip => [Row.skip.text]
  | .assign target value => [(Row.assign target value).text]
  | .ifThenElse cond yes no =>
    [(Row.ifHead cond).text] ++ Text.indent (blockLines yes) ++ [Row.otherwise.text] ++
      Text.indent (blockLines no) ++ [Row.close.text]
  | .ifThen cond body =>
    [(Row.ifHead cond).text] ++ Text.indent (blockLines body) ++ [Row.close.text]
  | .whileDo cond body =>
    [(Row.whileHead cond).text] ++ Text.indent (blockLines body) ++ [Row.close.text]
  | .repeatUntil body cond =>
    [Row.repeatHead.text] ++ Text.indent (blockLines body) ++ [(Row.untilTail cond).text]
  | .doWhile body cond =>
    [Row.doHead.text] ++ Text.indent (blockLines body) ++ [(Row.whileTail cond).text]
  | .forTo counter low high body =>
    [(Row.forHead counter low high).text] ++ Text.indent (blockLines body) ++ [Row.close.text]
  | .readNum target => [(Row.read target).text]
  | .writeNum value => [(Row.write value).text]
  | .writeStr text => [(Row.writeText text).text]

/-- The lines of a sequence of such statements. -/
def blockLines : List Outline → List String
  | [] => []
  | first :: rest => first.lines ++ blockLines rest

end

theorem blockLines_append (first rest : List Outline) :
    blockLines (first ++ rest) = blockLines first ++ blockLines rest := by
  induction first with
  | nil => simp [blockLines]
  | cons part first ih => simp [blockLines, ih]

end Outline

/-- The lines of a statement depend on its outline only. -/
theorem Stmt.lines_eq_outline (s : Stmt) : s.lines = Outline.blockLines s.outline := by
  induction s with
  | skip | assign target value | readNum target | writeNum value | writeStr text =>
    simp [outline, lines, Outline.blockLines, Outline.lines, Row.text]
  | seq first rest firstIh restIh =>
    rw [lines, outline, Outline.blockLines_append, firstIh, restIh]
  | ifThenElse cond yes no yesIh noIh =>
    simp [outline, lines, Outline.blockLines, Outline.lines, Row.text, yesIh, noIh]
  | ifThen cond body ih | whileDo cond body ih | repeatUntil body cond ih | doWhile body cond ih
  | forTo counter low high body ih =>
    simp [outline, lines, Outline.blockLines, Outline.lines, Row.text, ih]

end ImpLang
