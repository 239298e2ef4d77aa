import ImpLang.Proofs.Simulation

/-!
# What a statement sees of a store

A statement sees the values of the names that occur in it, and nothing else of the store it starts
from: not the other bindings, nor the order of any (`exec_agreeOn`). And it sees nothing of the
value of a name that it binds before it looks it up, so that more bindings make no difference to a
run that does not fail for want of one (`exec_extends`). Both are simulations: of stores that agree
on what is visible, and of stores one of which has all bindings of the other.
-/

namespace ImpLang

namespace Store

/-- Each of these names has the same value in two stores, or none in both. -/
def AgreeOn (seen : Set Name) (store store' : Store) : Prop :=
  ∀ name ∈ seen, store.get? name = store'.get? name

/-- The second store has every binding of the first. -/
def Extends (store store' : Store) : Prop :=
  ∀ name value, store.get? name = some value → store'.get? name = some value

variable {store store' : Store}

theorem AgreeOn.symm {seen : Set Name} (agree : store.AgreeOn seen store') :
    store'.AgreeOn seen store :=
  fun name member => (agree name member).symm

theorem AgreeOn.bind {seen : Set Name} (agree : store.AgreeOn seen store') (name : Name)
    (value : Int64) : (store.bind name value).AgreeOn seen (store'.bind name value) := by
  intro other member
  rw [get?_bind, get?_bind, agree other member]

theorem Extends.bind (more : store.Extends store') (name : Name) (value : Int64) :
    (store.bind name value).Extends (store'.bind name value) := by
  intro other found bound
  rw [get?_bind] at bound ⊢
  by_cases same : other = name
  · rw [if_pos same] at bound ⊢
    exact bound
  · rw [if_neg same] at bound ⊢
    exact more other found bound

/-- Where values agree nothing needs an excuse. -/
theorem agreeOn_tracks (seen : Set Name) : Tracks (fun _ => False) seen (AgreeOn seen) where
  lookup := by
    intro store store' name agree member
    unfold lookup
    rw [agree name member]
    exact .self _
  bind := fun name value agree => agree.bind name value

/-- A name that only the larger store binds is unbound in the other, which is excused. -/
theorem extends_tracks :
    Tracks (fun fault => ∃ name, fault = .unbound name) Set.univ Extends where
  lookup := by
    intro store store' name more _
    cases bound : store.get? name with
    | none =>
      rw [lookup_eq_error_iff.mpr ⟨get?_eq_none_iff.mp bound, rfl⟩]
      exact .excused ⟨name, rfl⟩ _
    | some value =>
      rw [lookup_eq_ok_iff.mpr bound, lookup_eq_ok_iff.mpr (more name value bound)]
      exact .ok rfl
  bind := fun name value more => more.bind name value

end Store

theorem Expr.eval_agreeOn {seen : Set Name} {store store' : Store}
    (agree : store.AgreeOn seen store') {e : Expr} (inside : ↑e.vars ⊆ seen) :
    e.eval store = e.eval store' := by
  have follows := eval_follows (Store.agreeOn_tracks seen) agree inside
  generalize e.eval store = result, e.eval store' = result' at follows ⊢
  cases follows with
  | excused allowed => exact allowed.elim
  | error fault => rfl
  | ok same => rw [same]

namespace Stmt

/-- From two stores that agree on the names in a statement, it does not end, or ends with the same
output, input and events: either with stores that agree on these names again, or by the same fault.
The same is true of any larger set of names on which the stores agree, so whatever else is bound and
in whichever order has no effect on them. An expression has the same value or the same fault. -/
theorem exec_agreeOn {seen : Set Name} {store store' : Store} (agree : store.AgreeOn seen store')
    (settings : Settings) (console : Console) :
    (∀ e : Expr, ↑e.vars ⊆ seen → e.eval store = e.eval store') ∧
    ∀ s : Stmt, ↑s.names ⊆ seen →
      (s.Diverges settings store console ∧ s.Diverges settings store' console) ∨
      (∃ final final' after, s.EndsIn settings store console (.done final after) ∧
        s.EndsIn settings store' console (.done final' after) ∧ final.AgreeOn seen final') ∨
      ∃ fault after, s.EndsIn settings store console (.failed fault after) ∧
        s.EndsIn settings store' console (.failed fault after) := by
  constructor
  · intro e inside
    exact Expr.eval_agreeOn agree inside
  · intro s inside
    by_cases diverges : s.Diverges settings store console
    · -- A run from the second store that ended would be followed by one from the first.
      refine Or.inl ⟨diverges, Classical.byContradiction fun ended => ?_⟩
      obtain ⟨outcome, ends⟩ := not_diverges_iff.mp ended
      apply not_diverges_iff.mpr _ diverges
      rcases ends.follows (Store.agreeOn_tracks seen) inside agree.symm (fun _ _ _ => id) with
        ⟨_, final, after, _, back, _⟩ | ⟨fault, after, _, back⟩
      · exact ⟨_, back⟩
      · exact ⟨_, back⟩
    · obtain ⟨outcome, ends⟩ := not_diverges_iff.mp diverges
      rcases ends.follows (Store.agreeOn_tracks seen) inside agree (fun _ _ _ => id) with
        ⟨final, final', after, rfl, ends', reached⟩ | ⟨fault, after, rfl, ends'⟩
      · exact Or.inr (Or.inl ⟨final, final', after, ends, ends', reached⟩)
      · exact Or.inr (Or.inr ⟨fault, after, ends, ends'⟩)

/-- A loop that counts down, from stores that bind its names in different orders and one of which
binds another name as well. -/
theorem exec_agreeOn_countdown : ∃ (s : Stmt) (store store' : Store),
    s = .whileDo (.gt (.named "n") (.int 0))
      (.seq (.writeNum (.named "k")) (.assign ⟨"n"⟩ (.sub (.named "n") (.int 1)))) ∧
    store = .ofEntries [(⟨"n"⟩, 1), (⟨"k"⟩, 5)] ∧
    store' = .ofEntries [(⟨"spare"⟩, 9), (⟨"k"⟩, 5), (⟨"n"⟩, 1)] ∧
    store.AgreeOn ↑s.names store' ∧
    ∃ final after final', after.printed = #[.written "5"] ∧
      s.EndsIn {} store { source := .script [], sink := .buffer } (.done final after) ∧
      s.EndsIn {} store' { source := .script [], sink := .buffer } (.done final' after) ∧
      final.AgreeOn ↑s.names final' := by
  obtain ⟨s, known⟩ : ∃ s : Stmt, s = .whileDo (.gt (.named "n") (.int 0))
      (.seq (.writeNum (.named "k")) (.assign ⟨"n"⟩ (.sub (.named "n") (.int 1)))) := ⟨_, rfl⟩
  have names : s.names = {⟨"n"⟩, ⟨"k"⟩} := by
    rw [known]
    decide
  have agree : (Store.ofEntries [(⟨"n"⟩, 1), (⟨"k"⟩, 5)]).AgreeOn ↑s.names
      (.ofEntries [(⟨"spare"⟩, 9), (⟨"k"⟩, 5), (⟨"n"⟩, 1)]) := by
    intro name member
    rw [names, Finset.mem_coe, Finset.mem_insert, Finset.mem_singleton] at member
    rcases member with rfl | rfl
    · decide
    · decide
  have ends : s.EndsIn {} (.ofEntries [(⟨"n"⟩, 1), (⟨"k"⟩, 5)])
      { source := .script [], sink := .buffer }
      (.done (.ofEntries [(⟨"n"⟩, 0), (⟨"k"⟩, 5)])
        { source := .script [], sink := .buffer, printed := #[.written "5"],
          events := #[.assigned ⟨"n"⟩ 0, .loopFinished .whileDo 1] }) := by
    refine ⟨nofun, 2, ?_⟩
    rw [known]
    decide +kernel
  refine ⟨s, _, _, known, rfl, rfl, agree, ?_⟩
  rcases (exec_agreeOn agree {} _).2 s subset_rfl with
    ⟨diverges, _⟩ | ⟨final, final', after, first, second, reached⟩ | ⟨_, _, failed, _⟩
  · exact absurd diverges (not_diverges_iff.mpr ⟨_, ends⟩)
  · cases ends.unique first
    exact ⟨_, _, final', rfl, first, second, reached⟩
  · cases ends.unique failed

/-- A run that ends, and not for want of a binding, ends from a store with more bindings with the
same output, input and events: by the same fault, or with all the bindings of the first run. -/
theorem exec_extends {store store' : Store} (more : store.Extends store') {settings : Settings}
    {s : Stmt} {console : Console} {outcome : Outcome Fault}
    (ends : s.EndsIn settings store console outcome)
    (bound : ∀ name after, outcome ≠ .failed (.unbound name) after) :
    (∃ final final' after, outcome = .done final after ∧
      s.EndsIn settings store' console (.done final' after) ∧ final.Extends final') ∨
    ∃ fault after, outcome = .failed fault after ∧
      s.EndsIn settings store' console (.failed fault after) := by
  apply ends.follows Store.extends_tracks (Set.subset_univ _) more
  rintro fault after rfl ⟨name, rfl⟩
  exact bound name after rfl

/-- The larger store has an old value for the counter of a loop. The run sets the counter before it
looks it up, and fails for want of input in both. -/
theorem exec_extends_counter : ∃ s : Stmt,
    s = .seq (.forTo ⟨"i"⟩ (.int 1) (.named "n") (.writeNum (.named "i"))) (.readNum ⟨"k"⟩) ∧
    (Store.ofEntries [(⟨"n"⟩, 2)]).Extends (.ofEntries [(⟨"i"⟩, 7), (⟨"n"⟩, 2)]) ∧
    ∃ after, after.printed = #[.written "1", .written "2"] ∧
      s.EndsIn {} (.ofEntries [(⟨"i"⟩, 7), (⟨"n"⟩, 2)]) { source := .script [], sink := .buffer }
        (.failed (.inputClosed ⟨"k"⟩) after) := by
  obtain ⟨s, known⟩ : ∃ s : Stmt, s = .seq (.forTo ⟨"i"⟩ (.int 1) (.named "n")
      (.writeNum (.named "i"))) (.readNum ⟨"k"⟩) := ⟨_, rfl⟩
  have more : (Store.ofEntries [(⟨"n"⟩, 2)]).Extends (.ofEntries [(⟨"i"⟩, 7), (⟨"n"⟩, 2)]) := by
    intro name value bound
    rw [Store.get?_eq_some_iff] at bound
    cases List.mem_singleton.mp bound
    decide
  have ends : s.EndsIn {} (.ofEntries [(⟨"n"⟩, 2)]) { source := .script [], sink := .buffer }
      (.failed (.inputClosed ⟨"k"⟩)
        { source := .script [], sink := .buffer, printed := #[.written "1", .written "2"],
          events := #[.loopFinished .forTo 2] }) := by
    refine ⟨nofun, 3, ?_⟩
    rw [known]
    decide +kernel
  refine ⟨s, known, more, ?_⟩
  rcases exec_extends more ends nofun with ⟨_, _, _, same, _⟩ | ⟨_, _, same, ends'⟩
  · cases same
  · cases same
    exact ⟨_, rfl, ends'⟩

end Stmt

end ImpLang
