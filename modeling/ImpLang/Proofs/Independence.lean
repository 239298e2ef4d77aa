import ImpLang.Proofs.Agreement
import ImpLang.Proofs.Frame
import ImpLang.Proofs.Observation

/-!
# Independent statements

Two statements are independent if neither writes a name that occurs in the other and the second
neither reads nor prints. Then each takes the same course before and after the other, and it makes
no difference which of them comes first (`seq_comm_of_apart`). Three facts carry a run over: from
one store to another that differs in names the statement does not have (`EndsIn.unseen`), from one
console to another that differs in events (`EndsIn.alike`), and, for a statement that neither reads
nor prints, to any other console (`EndsIn.elsewhere`).
-/

namespace ImpLang

namespace Stmt

/-- What a statement writes occurs in it. -/
theorem targets_subset_names (s : Stmt) : s.targets ⊆ s.names := by
  induction s with
  | skip | writeNum | writeStr => exact Finset.empty_subset _
  | assign | readNum => simp [targets, names]
  | seq first rest firstInside restInside => exact Finset.union_subset_union firstInside restInside
  | ifThenElse cond yes no yesInside noInside =>
    exact (Finset.union_subset_union yesInside noInside).trans Finset.subset_union_right
  | ifThen cond body inside | whileDo cond body inside | repeatUntil body cond inside
  | doWhile body cond inside => exact inside.trans Finset.subset_union_right
  | forTo counter low high body inside =>
    apply Finset.insert_subset_insert
    exact (inside.trans Finset.subset_union_right).trans Finset.subset_union_right

/-- Neither of two statements writes a name that occurs in the other. -/
structure Apart (a b : Stmt) : Prop where
  first : Disjoint a.targets b.names
  second : Disjoint b.targets a.names

variable {settings : Settings} {s a b : Stmt} {store final : Store} {console after : Console}

/-- A statement does the same from a store that differs in names it does not have. -/
theorem EndsIn.unseen {hidden : Finset Name} (apart : Disjoint hidden s.names) {store' : Store}
    (agree : store.AgreeOn {name | name ∉ hidden} store')
    (ends : s.EndsIn settings store console (.done final after)) :
    ∃ final', s.EndsIn settings store' console (.done final' after) ∧
      final.AgreeOn {name | name ∉ hidden} final' := by
  have inside : ↑s.names ⊆ {name | name ∉ hidden} := by
    intro name member
    exact Finset.disjoint_right.mp apart member
  rcases ends.follows (Store.agreeOn_tracks _) inside agree (fun _ _ _ => id) with
    ⟨_, final', _, same, ends', agree⟩ | ⟨_, _, failed, _⟩
  · cases same
    exact ⟨final', ends', agree⟩
  · cases failed

/-- A statement does the same on a console that differs in events. -/
theorem EndsIn.alike {console' : Console} (alike : console.Alike console')
    (ends : s.EndsIn settings store console (.done final after)) :
    ∃ after', s.EndsIn settings store console' (.done final after') ∧ after.Alike after' := by
  obtain ⟨_, fuel, reached⟩ := ends
  have agree := s.exec_alike settings fuel store alike
  rw [reached] at agree
  generalize reached' : s.exec settings fuel store console' = outcome at agree
  cases agree with
  | done related =>
    obtain ⟨rfl, same⟩ := related
    exact ⟨_, ⟨nofun, fuel, reached'⟩, same⟩

/-- A silent statement does the same on any other console, and leaves nothing but events there. -/
theorem EndsIn.elsewhere (silent : s.Silent)
    (ends : s.EndsIn settings store console (.done final after)) (console' : Console) :
    ∃ after', s.EndsIn settings store console' (.done final after') ∧
      console.Alike after ∧ console'.Alike after' := by
  obtain ⟨_, fuel, reached⟩ := ends
  -- All that the two runs can do to their consoles is to leave events.
  have mirrors : (s.exec settings fuel store console).Mirrors
      (fun now now' => console.Alike now ∧ console'.Alike now') (fun _ _ _ => False)
      (s.exec settings fuel store console') := by
    apply exec_mirrors_of_parts _ _ _ _ store ⟨.refl console, .refl console'⟩
    · intro now now' event _ same
      exact ⟨same.1.record_right event, same.2.record_right event⟩
    · intro part member talks
      rw [silent part member] at talks
      cases talks
  rw [reached] at mirrors
  generalize reached' : s.exec settings fuel store console' = outcome at mirrors
  cases mirrors with
  | done _ same => exact ⟨_, ⟨nofun, fuel, reached'⟩, same⟩

/-- A statement leaves the names that it does not write as they were. -/
theorem EndsIn.agreeOn (ends : s.EndsIn settings store console (.done final after)) :
    store.AgreeOn {name | name ∉ s.targets} final := by
  intro name outside
  exact (ends.framed.others name outside).symm

/-- The silent one of two statements that are apart may as well come first. The final values are
compared name by name: what the second statement writes the first leaves alone. -/
theorem EndsIn.swap (apart : a.Apart b) (silent : b.Silent)
    (ends : (Stmt.seq a b).EndsIn settings store console (.done final after)) :
    ∃ final' after', (Stmt.seq b a).EndsIn settings store console (.done final' after') ∧
      after.Alike after' ∧ ∀ name, final.get? name = final'.get? name := by
  rcases endsIn_seq_iff.mp ends with ⟨_, _, _, failed⟩ | ⟨middle, between, ranA, ranB⟩
  · cases failed
  -- The second statement sees nothing of what the first has written, printed or read.
  obtain ⟨other, early, sameB⟩ := ranB.unseen apart.first ranA.agreeOn.symm
  obtain ⟨beside, first, unchanged, unchanged'⟩ := early.elsewhere silent console
  -- And the first nothing of what the second has written or recorded.
  obtain ⟨final', late, sameA⟩ := ranA.unseen apart.second first.agreeOn
  obtain ⟨after', second, alike⟩ := late.alike unchanged'
  refine ⟨final', after', first.seq second, unchanged.symm.trans alike, ?_⟩
  intro name
  by_cases written : name ∈ b.targets
  · have outside : name ∉ a.targets := by
      intro member
      exact Finset.disjoint_left.mp apart.first member (b.targets_subset_names written)
    rw [sameB name outside, second.framed.others name outside]
  · rw [← sameA name written, ranB.framed.others name written]

/-- The silent one of two statements that are apart may as well come last. -/
theorem EndsIn.swap_back (apart : a.Apart b) (silent : b.Silent)
    (ends : (Stmt.seq b a).EndsIn settings store console (.done final after)) :
    ∃ final' after', (Stmt.seq a b).EndsIn settings store console (.done final' after') := by
  rcases endsIn_seq_iff.mp ends with ⟨_, _, _, failed⟩ | ⟨middle, between, ranB, ranA⟩
  · cases failed
  obtain ⟨_, _, unchanged, _⟩ := ranB.elsewhere silent console
  obtain ⟨other, early, _⟩ := ranA.unseen apart.second ranB.agreeOn.symm
  obtain ⟨beside, first, _⟩ := early.alike unchanged.symm
  obtain ⟨final', late, _⟩ := ranB.unseen apart.first first.agreeOn
  obtain ⟨after', second, _⟩ := late.elsewhere silent beside
  exact ⟨final', after', first.seq second⟩

/-- Of two statements that are apart, one of them silent, it makes no difference which comes first:
both orders are done or neither is, and then they have printed the same, left the same input and
bound the same names to the same values. -/
theorem seq_comm_of_apart (apart : a.Apart b) (silent : b.Silent) (settings : Settings)
    (store : Store) (console : Console) :
    ((∃ final after, (Stmt.seq a b).EndsIn settings store console (.done final after)) ↔
      ∃ final after, (Stmt.seq b a).EndsIn settings store console (.done final after)) ∧
    ∀ final after final' after',
      (Stmt.seq a b).EndsIn settings store console (.done final after) →
      (Stmt.seq b a).EndsIn settings store console (.done final' after') →
      after.printed = after'.printed ∧ after.source = after'.source ∧
        ∀ name, final.get? name = final'.get? name := by
  constructor
  · constructor
    · intro done
      obtain ⟨final, after, ends⟩ := done
      obtain ⟨final', after', ends', _⟩ := ends.swap apart silent
      exact ⟨final', after', ends'⟩
    · intro done
      obtain ⟨final, after, ends⟩ := done
      exact ends.swap_back apart silent
  · intro final after final' after' ends ends'
    obtain ⟨_, _, swapped, alike, values⟩ := ends.swap apart silent
    cases swapped.unique ends'
    exact ⟨alike.printed, alike.source, values⟩

/-- One statement reads a number and writes it, the other sums up. The order shows only in the order
of the bindings. -/
theorem seq_comm_of_apart_sum : ∃ (a b : Stmt) (store : Store) (console : Console),
    a = .seq (.readNum ⟨"x"⟩) (.writeNum (.named "x")) ∧
    b = .forTo ⟨"i"⟩ (.int 1) (.int 2) (.assign ⟨"k"⟩ (.add (.named "k") (.named "i"))) ∧
    store = .ofEntries [(⟨"k"⟩, 0)] ∧
    console = { source := .script ["4", "9"], sink := .buffer } ∧
    a.Apart b ∧ b.Silent ∧
    ∃ final after final' after',
      (Stmt.seq a b).EndsIn {} store console (.done final after) ∧
      (Stmt.seq b a).EndsIn {} store console (.done final' after') ∧
      final.entries = [(⟨"k"⟩, 3), (⟨"x"⟩, 4), (⟨"i"⟩, 3)] ∧
      final'.names = [⟨"k"⟩, ⟨"i"⟩, ⟨"x"⟩] ∧
      after.printed = #[.written "4"] ∧ after.printed = after'.printed ∧
      after.source = after'.source ∧ ∀ name, final.get? name = final'.get? name := by
  obtain ⟨a, isA⟩ : ∃ a : Stmt, a = .seq (.readNum ⟨"x"⟩) (.writeNum (.named "x")) := ⟨_, rfl⟩
  obtain ⟨b, isB⟩ : ∃ b : Stmt, b = .forTo ⟨"i"⟩ (.int 1) (.int 2)
      (.assign ⟨"k"⟩ (.add (.named "k") (.named "i"))) := ⟨_, rfl⟩
  have apart : a.Apart b := by
    rw [isA, isB]
    exact ⟨by decide, by decide⟩
  have silent : b.Silent := by
    rw [isB]
    decide
  have ends : (Stmt.seq a b).EndsIn {} (.ofEntries [(⟨"k"⟩, 0)])
      { source := .script ["4", "9"], sink := .buffer }
      (.done (.ofEntries [(⟨"k"⟩, 3), (⟨"x"⟩, 4), (⟨"i"⟩, 3)])
        { source := .script ["9"], sink := .buffer, printed := #[.written "4"],
          events := #[.read ⟨"x"⟩ 4, .assigned ⟨"k"⟩ 1, .assigned ⟨"k"⟩ 3,
            .loopFinished .forTo 2] }) := by
    refine ⟨nofun, 3, ?_⟩
    rw [isA, isB]
    decide +kernel
  have ends' : (Stmt.seq b a).EndsIn {} (.ofEntries [(⟨"k"⟩, 0)])
      { source := .script ["4", "9"], sink := .buffer }
      (.done (.ofEntries [(⟨"k"⟩, 3), (⟨"i"⟩, 3), (⟨"x"⟩, 4)])
        { source := .script ["9"], sink := .buffer, printed := #[.written "4"],
          events := #[.assigned ⟨"k"⟩ 1, .assigned ⟨"k"⟩ 3, .loopFinished .forTo 2,
            .read ⟨"x"⟩ 4] }) := by
    refine ⟨nofun, 3, ?_⟩
    rw [isA, isB]
    decide +kernel
  have same := (seq_comm_of_apart apart silent {} _ _).2 _ _ _ _ ends ends'
  exact ⟨a, b, _, _, isA, isB, rfl, rfl, apart, silent, _, _, _, _, ends, ends', by decide,
    by decide, rfl, same⟩

end Stmt

end ImpLang
