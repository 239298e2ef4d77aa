import ImpLang.Proofs.Ending
import ImpLang.Proofs.Variables

/-!
# One statement from two stores

The same statement runs from two stores that differ. If what one has for a name the other has too,
and binding a name keeps the stores related, then the second run follows the first: it prints, reads
and records the same, and ends in the same way with related stores. Some faults may be excused, and
where the first run fails of one of them nothing is said about the second. A relation is checked on
single names (`Store.Tracks`); every expression, every control of a loop and every statement then
respects it, by induction on each.
-/

namespace ImpLang

/-- The second result is the fault that the first is, or a value related to it, unless the first is
an excused fault. -/
inductive Follows {α β : Type} (excused : Fault → Prop) (related : α → β → Prop) :
    Except Fault α → Except Fault β → Prop
  | excused {fault : Fault} (allowed : excused fault) (result : Except Fault β) :
      Follows excused related (.error fault) result
  | error (fault : Fault) : Follows excused related (.error fault) (.error fault)
  | ok {value : α} {value' : β} (same : related value value') :
      Follows excused related (.ok value) (.ok value')

/-- The second outcome is the one that the first is, up to related stores, unless the first is an
excused failure. -/
inductive Outcome.Follows (excused : Fault → Prop) (related : Store → Store → Prop) :
    Outcome Fault → Outcome Fault → Prop
  | excused {fault : Fault} (allowed : excused fault) (console : Console)
      (outcome : Outcome Fault) : Follows excused related (.failed fault console) outcome
  | failed (fault : Fault) (console : Console) :
      Follows excused related (.failed fault console) (.failed fault console)
  | done {store store' : Store} (same : related store store') (console : Console) :
      Follows excused related (.done store console) (.done store' console)
  | outOfFuel : Follows excused related .outOfFuel .outOfFuel

/-- Looking up a visible name in two related stores has results that follow each other, and binding
a name in both keeps them related. -/
structure Store.Tracks (excused : Fault → Prop) (visible : Set Name)
    (related : Store → Store → Prop) : Prop where
  lookup : ∀ {store store' : Store} {name : Name}, related store store' → name ∈ visible →
    Follows excused Eq (store.lookup name) (store'.lookup name)
  bind : ∀ {store store' : Store} (name : Name) (value : Int64), related store store' →
    related (store.bind name value) (store'.bind name value)

variable {excused : Fault → Prop} {visible : Set Name} {related : Store → Store → Prop}

/-! ## Results -/

namespace Follows

variable {α β γ : Type} {onOk : β → γ → Prop}

theorem self (result : Except Fault α) : Follows excused Eq result result := by
  cases result with
  | error fault => exact .error fault
  | ok value => exact .ok rfl

theorem bind {first first' : Except Fault α} {next : α → Except Fault β}
    {next' : α → Except Fault γ} (begins : Follows excused Eq first first')
    (rest : ∀ value, Follows excused onOk (next value) (next' value)) :
    Follows excused onOk (first >>= next) (first' >>= next') := by
  cases begins with
  | excused allowed result => exact .excused allowed _
  | error fault => exact .error fault
  | ok same =>
    subst same
    exact rest _

theorem map {first first' : Except Fault α} (begins : Follows excused Eq first first')
    (change : α → β) : Follows excused Eq (first.map change) (first'.map change) := by
  cases begins with
  | excused allowed result => exact .excused allowed _
  | error fault => exact .error fault
  | ok same =>
    subst same
    exact .ok rfl

end Follows

namespace Expr

theorem eval_follows (tracks : Store.Tracks excused visible related) {store store' : Store}
    (start : related store store') {e : Expr} (inside : ↑e.vars ⊆ visible) :
    Follows excused Eq (e.eval store) (e.eval store') := by
  induction e with
  | lit value => exact .ok rfl
  | var name =>
    have seen : name ∈ visible := inside (by simp [vars])
    exact (tracks.lookup start seen).map Value.int
  | binary op left right leftFollows rightFollows =>
    rw [vars, Finset.coe_union, Set.union_subset_iff] at inside
    refine (leftFollows inside.1).bind fun a => ?_
    refine (rightFollows inside.2).bind fun b => ?_
    exact .self _
  | not operand operandFollows => exact (operandFollows inside).bind fun a => .self _

theorem evalInt_follows (tracks : Store.Tracks excused visible related) {store store' : Store}
    (start : related store store') {e : Expr} (inside : ↑e.vars ⊆ visible) (site : Site) :
    Follows excused Eq (e.evalInt store site) (e.evalInt store' site) :=
  (eval_follows tracks start inside).bind fun value => .self (value.expectInt site)

theorem evalBool_follows (tracks : Store.Tracks excused visible related) {store store' : Store}
    (start : related store store') {e : Expr} (inside : ↑e.vars ⊆ visible) (site : Site) :
    Follows excused Eq (e.evalBool store site) (e.evalBool store' site) :=
  (eval_follows tracks start inside).bind fun value => .self (value.expectBool site)

end Expr

/-! ## Outcomes -/

namespace Outcome.Follows

theorem attempt {α : Type} {onOk : α → α → Prop} {result result' : Except Fault α}
    {console : Console} {next next' : α → Outcome Fault}
    (tried : ImpLang.Follows excused onOk result result')
    (rest : ∀ value value', onOk value value' →
      (next value).Follows excused related (next' value')) :
    (Outcome.attempt result console next).Follows excused related
      (Outcome.attempt result' console next') := by
  cases tried with
  | excused allowed result => exact .excused allowed console _
  | error fault => exact .failed fault console
  | ok same => exact rest _ _ same

/-- Both sides go on from the same value. -/
theorem attempt_eq {α : Type} {result result' : Except Fault α} {console : Console}
    {next next' : α → Outcome Fault} (tried : ImpLang.Follows excused Eq result result')
    (rest : ∀ value, (next value).Follows excused related (next' value)) :
    (Outcome.attempt result console next).Follows excused related
      (Outcome.attempt result' console next') := by
  apply attempt tried
  intro value value' same
  subst same
  exact rest value

theorem andThen {outcome outcome' : Outcome Fault} {next next' : Store → Console → Outcome Fault}
    (first : outcome.Follows excused related outcome')
    (rest : ∀ store store' console, related store store' →
      (next store console).Follows excused related (next' store' console)) :
    (outcome.andThen next).Follows excused related (outcome'.andThen next') := by
  cases first with
  | excused allowed console outcome => exact .excused allowed console _
  | failed fault console => exact .failed fault console
  | done same console => exact rest _ _ console same
  | outOfFuel => exact .outOfFuel

end Outcome.Follows

/-! ## Loops -/

namespace LoopControl

/-- A loop whose control and body respect a relation between stores respects it, round by round: the
questions get the same answers, so both loops count the same rounds and stop together. -/
theorem iterate_follows {control : LoopControl} {limit : Option UInt64}
    {body : Store → Console → Outcome Fault}
    (enter : ∀ {store store'}, related store store' →
      Follows excused Eq (control.enter store) (control.enter store'))
    (leave : ∀ {store store'}, related store store' →
      Follows excused (fun left right => related left.1 right.1 ∧ left.2 = right.2)
        (control.leave store) (control.leave store'))
    (bodyFollows : ∀ {store store'} console, related store store' →
      (body store console).Follows excused related (body store' console))
    (fuel : Nat) (rounds : UInt64) {store store' : Store} (console : Console)
    (start : related store store') :
    (control.iterate limit body fuel rounds store console).Follows excused related
      (control.iterate limit body fuel rounds store' console) := by
  induction fuel generalizing rounds store store' console with
  | zero => exact .outOfFuel
  | succ fuel ih =>
    rw [iterate_succ, iterate_succ]
    apply Outcome.Follows.attempt_eq (enter start)
    intro begins
    cases begins with
    | false => exact .done start _
    | true =>
      apply Outcome.Follows.attempt_eq (.self _)
      intro counted
      apply Outcome.Follows.andThen (bodyFollows console start)
      intro after after' between reached
      apply Outcome.Follows.attempt (leave reached)
      rintro ⟨next, again⟩ ⟨next', _⟩ ⟨kept, rfl⟩
      cases again with
      | false => exact .done kept _
      | true => exact ih counted between kept

variable {store store' : Store} {high : Expr} {counter : Name}

theorem enter_forTo_follows (tracks : Store.Tracks excused visible related)
    (seen : counter ∈ visible) (inside : ↑high.vars ⊆ visible) (start : related store store') :
    Follows excused Eq ((forTo counter high).enter store) ((forTo counter high).enter store') := by
  refine (tracks.lookup start seen).bind fun current => ?_
  exact (Expr.evalInt_follows tracks start inside _).bind fun bound => .ok rfl

theorem leave_forTo_follows (tracks : Store.Tracks excused visible related)
    (seen : counter ∈ visible) (start : related store store') :
    Follows excused (fun left right => related left.1 right.1 ∧ left.2 = right.2)
      ((forTo counter high).leave store) ((forTo counter high).leave store') := by
  refine (tracks.lookup start seen).bind fun current => ?_
  refine Follows.bind (.self (ArithOp.add.apply current 1)) fun next => ?_
  exact .ok ⟨tracks.bind counter next start, rfl⟩

end LoopControl

/-! ## Statements -/

namespace Stmt

/-- A statement whose names are all visible follows itself from related stores, whatever fuel it is
given. -/
theorem exec_follows (tracks : Store.Tracks excused visible related) (settings : Settings)
    (fuel : Nat) {s : Stmt} (inside : ↑s.names ⊆ visible) {store store' : Store}
    (start : related store store') (console : Console) :
    (s.exec settings fuel store console).Follows excused related
      (s.exec settings fuel store' console) := by
  induction s generalizing store store' console with
  | skip => exact .done start console
  | assign target value =>
    rw [names, Finset.coe_insert, Set.insert_subset_iff] at inside
    apply Outcome.Follows.attempt_eq (Expr.evalInt_follows tracks start inside.2 _)
    intro n
    exact .done (tracks.bind target n start) _
  | seq first rest firstFollows restFollows =>
    rw [names, Finset.coe_union, Set.union_subset_iff] at inside
    apply Outcome.Follows.andThen (firstFollows inside.1 start console)
    intro middle middle' between reached
    exact restFollows inside.2 reached between
  | ifThenElse cond yes no yesFollows noFollows =>
    rw [names, Finset.coe_union, Finset.coe_union, Set.union_subset_iff,
      Set.union_subset_iff] at inside
    obtain ⟨condInside, yesInside, noInside⟩ := inside
    apply Outcome.Follows.attempt_eq (Expr.evalBool_follows tracks start condInside _)
    intro holds
    cases holds with
    | false => exact noFollows noInside start console
    | true => exact yesFollows yesInside start console
  | ifThen cond body bodyFollows =>
    rw [names, Finset.coe_union, Set.union_subset_iff] at inside
    apply Outcome.Follows.attempt_eq (Expr.evalBool_follows tracks start inside.1 _)
    intro holds
    cases holds with
    | false => exact .done start console
    | true => exact bodyFollows inside.2 start console
  | whileDo cond body bodyFollows =>
    rw [names, Finset.coe_union, Set.union_subset_iff] at inside
    refine LoopControl.iterate_follows ?_ ?_ ?_ fuel 0 console start
    · exact fun start => Expr.evalBool_follows tracks start inside.1 _
    · exact fun start => .ok ⟨start, rfl⟩
    · exact fun console start => bodyFollows inside.2 start console
  | repeatUntil body cond bodyFollows | doWhile body cond bodyFollows =>
    rw [names, Finset.coe_union, Set.union_subset_iff] at inside
    refine LoopControl.iterate_follows ?_ ?_ ?_ fuel 0 console start
    · exact fun _ => .ok rfl
    · intro store store' start
      exact (Expr.evalBool_follows tracks start inside.1 _).bind fun _ => .ok ⟨start, rfl⟩
    · exact fun console start => bodyFollows inside.2 start console
  | forTo counter low high body bodyFollows =>
    rw [names, Finset.coe_insert, Finset.coe_union, Finset.coe_union, Set.insert_subset_iff,
      Set.union_subset_iff, Set.union_subset_iff] at inside
    obtain ⟨seen, lowInside, highInside, bodyInside⟩ := inside
    apply Outcome.Follows.attempt_eq (Expr.evalInt_follows tracks start lowInside _)
    intro n
    refine LoopControl.iterate_follows ?_ ?_ ?_ fuel 0 console (tracks.bind counter n start)
    · exact LoopControl.enter_forTo_follows tracks seen highInside
    · exact LoopControl.leave_forTo_follows tracks seen
    · exact fun console start => bodyFollows bodyInside start console
  | readNum target =>
    rw [exec, exec]
    split
    next n after _ => exact .done (tracks.bind target n start) after
    next after _ => exact .failed _ after
  | writeNum value =>
    apply Outcome.Follows.attempt_eq (Expr.evalInt_follows tracks start inside _)
    intro n
    exact .done start _
  | writeStr text => exact .done start _

/-- A run that ends, and not in an excused failure, is followed to its end. -/
theorem EndsIn.follows (tracks : Store.Tracks excused visible related) {settings : Settings}
    {s : Stmt} (inside : ↑s.names ⊆ visible) {store store' : Store} (start : related store store')
    {console : Console} {outcome : Outcome Fault}
    (ends : s.EndsIn settings store console outcome)
    (unexcused : ∀ fault after, outcome = .failed fault after → ¬ excused fault) :
    (∃ final final' after, outcome = .done final after ∧
      s.EndsIn settings store' console (.done final' after) ∧ related final final') ∨
    ∃ fault after, outcome = .failed fault after ∧
      s.EndsIn settings store' console (.failed fault after) := by
  obtain ⟨ended, fuel, reached⟩ := ends
  have follows := exec_follows tracks settings fuel inside start console
  rw [reached] at follows
  generalize other : s.exec settings fuel store' console = outcome' at follows
  cases follows with
  | excused allowed after outcome' => exact absurd allowed (unexcused _ _ rfl)
  | failed fault after => exact Or.inr ⟨fault, after, rfl, nofun, fuel, other⟩
  | done same after => exact Or.inl ⟨_, _, after, rfl, ⟨nofun, fuel, other⟩, same⟩
  | outOfFuel => exact absurd rfl ended

end Stmt

end ImpLang
