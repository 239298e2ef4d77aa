import ImpLang.Proofs.Ending
import ImpLang.Stmt.Render

/-!
# Sequences need no brackets

A tree of sequences does what its parts do one after another, up to the first of them that fails,
and shows what they show. How the parts are nested makes no difference: not to the right, as `block`
nests them, nor to the left, nor mixed. The reason is that running in turn and the text of lists
both respect the joining of two lists, which is what a sequence does to those of its two sides.
-/

namespace ImpLang.Stmt

/-- The tree joins these statements, from left to right, by sequences. A statement among them may be
a sequence itself. -/
inductive Brackets : List Stmt → Stmt → Prop
  | one (s : Stmt) : Brackets [s] s
  | join {left right : List Stmt} {first rest : Stmt} (before : Brackets left first)
      (after : Brackets right rest) : Brackets (left ++ right) (.seq first rest)

/-- Statements run one after another, each from the store and the console that the one before it
left. The first failure is the outcome of all. -/
inductive RunsInTurn (settings : Settings) : List Stmt → Store → Console → Outcome Fault → Prop
  | none (store : Store) (console : Console) :
      RunsInTurn settings [] store console (.done store console)
  | fails {s : Stmt} {others : List Stmt} {store : Store} {console after : Console} {fault : Fault}
      (failed : s.EndsIn settings store console (.failed fault after)) :
      RunsInTurn settings (s :: others) store console (.failed fault after)
  | goesOn {s : Stmt} {others : List Stmt} {store middle : Store} {console between : Console}
      {outcome : Outcome Fault} (ran : s.EndsIn settings store console (.done middle between))
      (rest : RunsInTurn settings others middle between outcome) :
      RunsInTurn settings (s :: others) store console outcome

/-! ## Running -/

section

variable {settings : Settings} {store : Store} {console : Console} {outcome : Outcome Fault}

theorem runsInTurn_singleton_iff {s : Stmt} :
    RunsInTurn settings [s] store console outcome ↔ s.EndsIn settings store console outcome := by
  constructor
  · intro runs
    cases runs with
    | fails failed => exact failed
    | goesOn ran rest =>
      cases rest
      exact ran
  · intro ends
    cases outcome with
    | done middle between => exact .goesOn ends (.none middle between)
    | failed fault after => exact .fails ends
    | outOfFuel => exact absurd rfl ends.1

/-- What two lists do in turn is what the second does after the first. -/
theorem runsInTurn_append_iff {left right : List Stmt} :
    RunsInTurn settings (left ++ right) store console outcome ↔
      (∃ fault after, RunsInTurn settings left store console (.failed fault after) ∧
        outcome = .failed fault after) ∨
      ∃ middle between, RunsInTurn settings left store console (.done middle between) ∧
        RunsInTurn settings right middle between outcome := by
  induction left generalizing store console with
  | nil =>
    constructor
    · intro runs
      exact Or.inr ⟨store, console, .none store console, runs⟩
    · rintro (⟨fault, after, failed, _⟩ | ⟨middle, between, ran, runs⟩)
      · cases failed
      · cases ran
        exact runs
  | cons s others ih =>
    constructor
    · intro runs
      cases runs with
      | fails failed => exact Or.inl ⟨_, _, .fails failed, rfl⟩
      | goesOn ran rest =>
        rcases ih.mp rest with ⟨fault, after, failed, same⟩ | ⟨middle, between, reached, runs⟩
        · exact Or.inl ⟨fault, after, .goesOn ran failed, same⟩
        · exact Or.inr ⟨middle, between, .goesOn ran reached, runs⟩
    · rintro (⟨fault, after, failed, rfl⟩ | ⟨middle, between, ran, runs⟩)
      · cases failed with
        | fails failed => exact .fails failed
        | goesOn ran failed => exact .goesOn ran (ih.mpr (Or.inl ⟨fault, after, failed, rfl⟩))
      · cases ran with
        | goesOn first rest => exact .goesOn first (ih.mpr (Or.inr ⟨middle, between, rest, runs⟩))

/-- The two lists that a sequence joins run in turn as its two sides run, so the nesting goes away
by induction on the tree. -/
theorem Brackets.endsIn_iff {stmts : List Stmt} {tree : Stmt} (brackets : Brackets stmts tree) :
    tree.EndsIn settings store console outcome ↔
      RunsInTurn settings stmts store console outcome := by
  induction brackets generalizing store console outcome with
  | one s => exact runsInTurn_singleton_iff.symm
  | join before after firstEnds restEnds =>
    simp only [endsIn_seq_iff, runsInTurn_append_iff, firstEnds, restEnds]

theorem Brackets.diverges_iff {stmts : List Stmt} {tree : Stmt} (brackets : Brackets stmts tree) :
    tree.Diverges settings store console ↔
      ∀ outcome, ¬ RunsInTurn settings stmts store console outcome := by
  have ends := @not_diverges_iff settings tree store console
  simp only [brackets.endsIn_iff] at ends
  rw [← not_exists, ← ends, Classical.not_not]

end

/-! ## Showing -/

theorem render_seq (first rest : Stmt) :
    (Stmt.seq first rest).render = first.render ++ rest.render := by
  unfold render Text.unlines
  rw [lines, List.map_append, String.join_append]

theorem Brackets.render_eq {stmts : List Stmt} {tree : Stmt} (brackets : Brackets stmts tree) :
    tree.render = String.join (stmts.map render) := by
  induction brackets with
  | one s => simp
  | join before after firstShows restShows =>
    rw [render_seq, firstShows, restShows, List.map_append, String.join_append]

/-! ## Ways to nest -/

/-- Going down the right spine is one way of taking a tree apart. -/
theorem brackets_spine (tree : Stmt) : Brackets tree.spine tree := by
  induction tree with
  | seq first rest _ along => exact .join (.one first) along
  | _ => exact .one _

/-- A block is built up from its end. -/
theorem block_concat (parts : List Stmt) (last : Stmt) :
    block (parts ++ [last]) = parts.foldr .seq last := by
  induction parts with
  | nil => rfl
  | cons first parts ih =>
    rw [List.foldr_cons, ← ih]
    cases parts <;> rfl

theorem brackets_foldr (parts : List Stmt) (last : Stmt) :
    Brackets (parts ++ [last]) (parts.foldr .seq last) := by
  induction parts with
  | nil => exact .one last
  | cons first parts ih =>
    show Brackets ([first] ++ (parts ++ [last])) _
    exact .join (.one first) ih

theorem Brackets.foldl {stmts : List Stmt} {tree : Stmt} (brackets : Brackets stmts tree)
    (parts : List Stmt) : Brackets (stmts ++ parts) (parts.foldl .seq tree) := by
  induction parts generalizing stmts tree with
  | nil => simpa using brackets
  | cons next parts ih =>
    have longer := ih (.join brackets (.one next))
    rwa [List.append_assoc] at longer

/-- A tree of sequences ends as its parts do in turn, whatever the nesting, the limit, the store and
the console, and shows what they show. The parts nested to the right, as `block` nests them from the
end, are one such tree; so are they nested to the left, and every tree with the statements along its
right edge. A block of no statements does nothing. -/
theorem sequence_runs_in_turn (settings : Settings) (store : Store) (console : Console) :
    (∀ stmts tree, Brackets stmts tree →
      (∀ outcome, tree.EndsIn settings store console outcome ↔
        RunsInTurn settings stmts store console outcome) ∧
      (tree.Diverges settings store console ↔
        ∀ outcome, ¬ RunsInTurn settings stmts store console outcome) ∧
      tree.render = String.join (stmts.map render)) ∧
    (∀ parts last, block (parts ++ [last]) = parts.foldr .seq last ∧
      Brackets (parts ++ [last]) (block (parts ++ [last]))) ∧
    (∀ first parts, Brackets (first :: parts) (parts.foldl .seq first)) ∧
    (∀ tree, Brackets (spine tree) tree) ∧
    block [] = .skip ∧ ∀ outcome,
      (block []).EndsIn settings store console outcome ↔ outcome = .done store console := by
  refine ⟨?_, ?_, ?_, brackets_spine, rfl, ?_⟩
  · intro stmts tree brackets
    exact ⟨fun _ => brackets.endsIn_iff, brackets.diverges_iff, brackets.render_eq⟩
  · intro parts last
    rw [block_concat]
    exact ⟨rfl, brackets_foldr parts last⟩
  · intro first parts
    exact (Brackets.one first).foldl parts
  · intro outcome
    constructor
    · rintro ⟨_, _, rfl⟩
      rfl
    · rintro rfl
      exact ⟨nofun, 0, rfl⟩

/-- Four statements in two pairs, of which the third divides by zero: the fourth does not run. -/
theorem sequence_runs_in_turn_division : ∃ a b c d : Stmt,
    a = .assign ⟨"x"⟩ (.int 1) ∧ b = .writeNum (.named "x") ∧
    c = .assign ⟨"x"⟩ (.div (.named "x") (.int 0)) ∧ d = .writeStr "never" ∧
    Brackets [a, b, c, d] (.seq (.seq a b) (.seq c d)) ∧
    RunsInTurn {} [a, b, c, d] .empty { source := .script [], sink := .buffer }
      (.failed (.divisionByZero (.arith .div))
        { source := .script [], sink := .buffer, printed := #[.written "1"],
          events := #[.assigned ⟨"x"⟩ 1] }) := by
  refine ⟨_, _, _, _, rfl, rfl, rfl, rfl, ?_⟩
  have pairs (a b c d : Stmt) : Brackets [a, b, c, d] (.seq (.seq a b) (.seq c d)) :=
    .join (.join (.one a) (.one b)) (.join (.one c) (.one d))
  refine ⟨pairs _ _ _ _, ?_⟩
  apply (((sequence_runs_in_turn _ _ _).1 _ _ (pairs _ _ _ _)).1 _).mp
  exact ⟨nofun, 0, by decide +kernel⟩

end ImpLang.Stmt
