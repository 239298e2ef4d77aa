import ImpLang.Proofs.Ending
import ImpLang.Proofs.Variables
import ImpLang.Proofs.WriteHistory

/-!
# What execution leaves as it was

A statement binds its targets and nothing else. The names that were bound before keep their places,
those that are new come after them and are targets, and a name that is no target keeps its value or
stays without one (`exec_frame`). One binding has this effect, effects that follow one another add
up to one of the same kind, and so every statement has it, however many rounds its loops go.
-/

namespace ImpLang

/-- What becomes of a store when only these names are written: the bound names stay as they stand,
with new ones of these behind them, and other names keep their values. -/
structure Store.FramedBy (targets : Finset Name) (before after : Store) : Prop where
  names : ∃ added, after.names = before.names ++ added ∧ ∀ name ∈ added, name ∈ targets
  others : ∀ name, name ∉ targets → after.get? name = before.get? name

namespace Store.FramedBy

variable {targets fewer : Finset Name} {before middle after : Store}

theorem refl (targets : Finset Name) (store : Store) : FramedBy targets store store :=
  ⟨⟨[], by simp⟩, fun _ _ => rfl⟩

theorem trans (first : FramedBy targets before middle) (second : FramedBy targets middle after) :
    FramedBy targets before after := by
  obtain ⟨added, names, allowed⟩ := first.names
  obtain ⟨added', names', allowed'⟩ := second.names
  refine ⟨⟨added ++ added', ?_, ?_⟩, ?_⟩
  · rw [names', names, List.append_assoc]
  · intro name member
    rcases List.mem_append.mp member with early | late
    · exact allowed name early
    · exact allowed' name late
  · intro name outside
    rw [second.others name outside, first.others name outside]

theorem mono (framed : FramedBy fewer before after) (subset : fewer ⊆ targets) :
    FramedBy targets before after := by
  obtain ⟨added, names, allowed⟩ := framed.names
  refine ⟨⟨added, names, fun name member => subset (allowed name member)⟩, ?_⟩
  intro name outside
  exact framed.others name fun member => outside (subset member)

theorem bind (store : Store) {name : Name} (target : name ∈ targets) (value : Int64) :
    FramedBy targets store (store.bind name value) := by
  constructor
  · rw [names_bind]
    by_cases bound : name ∈ store.names
    · exact ⟨[], by simp [bound]⟩
    · exact ⟨[name], by simp [bound, target]⟩
  · intro other outside
    have different : other ≠ name := fun same => outside (same ▸ target)
    rw [get?_bind, if_neg different]

end Store.FramedBy

/-- An end leaves all but these names as they were in the store. -/
def Outcome.FramedBy (targets : Finset Name) (store : Store) : Outcome Fault → Prop :=
  All (fun after _ => store.FramedBy targets after) (fun _ _ => True)

theorem Outcome.FramedBy.mono {targets fewer : Finset Name} {store : Store}
    {outcome : Outcome Fault} (framed : outcome.FramedBy fewer store) (subset : fewer ⊆ targets) :
    outcome.FramedBy targets store :=
  All.mono framed (fun _ _ kept => kept.mono subset) fun _ _ failed => failed

theorem Outcome.FramedBy.after {targets : Finset Name} {store middle : Store}
    {outcome : Outcome Fault} (first : store.FramedBy targets middle)
    (rest : outcome.FramedBy targets middle) : outcome.FramedBy targets store :=
  All.mono rest (fun _ _ kept => first.trans kept) fun _ _ failed => failed

/-- The control of a loop and its body leave the rest as it was, hence so does any number of
rounds. -/
theorem LoopControl.iterate_framed {control : LoopControl} {limit : Option UInt64}
    {body : Store → Console → Outcome Fault} {targets : Finset Name}
    (leaves : ∀ {store next again}, control.leave store = .ok (next, again) →
      store.FramedBy targets next)
    (bodyFramed : ∀ store console, (body store console).FramedBy targets store)
    (fuel : Nat) (rounds : UInt64) (store : Store) (console : Console) :
    (control.iterate limit body fuel rounds store console).FramedBy targets store := by
  refine iterate_all (fun reached _ => store.FramedBy targets reached) ?enterFails ?stops
    ?countFails ?goesOn fuel rounds (.refl targets store)
  case enterFails => exact fun _ _ => trivial
  case stops => exact fun _ sofar _ => sofar
  case countFails => exact fun _ _ _ => trivial
  case goesOn =>
    intro reached console sofar _
    refine Outcome.All.mono (bodyFramed reached console) ?_ fun _ _ failed => failed
    intro after _ kept
    have all : store.FramedBy targets after := sofar.trans kept
    refine ⟨fun _ _ => trivial, ?_, ?_⟩
    · exact fun next left => all.trans (leaves left)
    · exact fun next _ left => all.trans (leaves left)

namespace Stmt

theorem exec_framed (settings : Settings) (fuel : Nat) (s : Stmt) (store : Store)
    (console : Console) : (s.exec settings fuel store console).FramedBy s.targets store := by
  induction s generalizing store console with
  | skip => exact .done (.refl _ store)
  | assign target value =>
    refine .attempt (fun _ _ => trivial) fun n _ => ?_
    exact .done (.bind store (Finset.mem_singleton_self target) n)
  | seq first rest firstFramed restFramed =>
    have early : (first.exec settings fuel store console).FramedBy (first.targets ∪ rest.targets)
        store := (firstFramed store console).mono Finset.subset_union_left
    refine Outcome.All.andThen early fun middle between kept => ?_
    exact Outcome.FramedBy.after kept ((restFramed middle between).mono Finset.subset_union_right)
  | ifThenElse cond yes no yesFramed noFramed =>
    refine .attempt (fun _ _ => trivial) fun holds _ => ?_
    cases holds with
    | false => exact (noFramed store console).mono Finset.subset_union_right
    | true => exact (yesFramed store console).mono Finset.subset_union_left
  | ifThen cond body bodyFramed =>
    refine .attempt (fun _ _ => trivial) fun holds _ => ?_
    cases holds with
    | false => exact .done (.refl _ store)
    | true => exact bodyFramed store console
  | whileDo cond body bodyFramed =>
    refine LoopControl.iterate_framed ?_ bodyFramed fuel 0 store console
    intro store next again left
    cases left
    exact .refl _ store
  | repeatUntil body cond bodyFramed =>
    refine LoopControl.iterate_framed ?_ bodyFramed fuel 0 store console
    intro store next again left
    rw [(LoopControl.leave_repeatUntil_ok.mp left).1]
    exact .refl _ store
  | doWhile body cond bodyFramed =>
    refine LoopControl.iterate_framed ?_ bodyFramed fuel 0 store console
    intro store next again left
    rw [(LoopControl.leave_doWhile_ok.mp left).1]
    exact .refl _ store
  | forTo counter low high body bodyFramed =>
    refine .attempt (fun _ _ => trivial) fun start _ => ?_
    have counts (store : Store) (value : Int64) :
        store.FramedBy (insert counter body.targets) (store.bind counter value) :=
      .bind store (Finset.mem_insert_self counter body.targets) value
    refine Outcome.FramedBy.after (counts store start) ?_
    refine LoopControl.iterate_framed ?_ ?_ fuel 0 (store.bind counter start) console
    · intro store next again left
      obtain ⟨_, increased, _, _, rfl, _⟩ := LoopControl.leave_forTo_ok.mp left
      exact counts store increased
    · exact fun store console => (bodyFramed store console).mono (Finset.subset_insert _ _)
  | readNum target =>
    rw [exec]
    split
    next n after _ => exact .done (.bind store (Finset.mem_singleton_self target) n)
    next => exact .failed trivial
  | writeNum value => exact .attempt (fun _ _ => trivial) fun n _ => .done (.refl _ store)
  | writeStr text => exact .done (.refl _ store)

theorem EndsIn.framed {settings : Settings} {s : Stmt} {store final : Store}
    {console after : Console} (ends : s.EndsIn settings store console (.done final after)) :
    store.FramedBy s.targets final := by
  obtain ⟨_, fuel, reached⟩ := ends
  have framed := exec_framed settings fuel s store console
  rw [reached] at framed
  cases framed with
  | done kept => exact kept

end Stmt

/-- A statement that is done has bound only names that it writes. The names bound before come first
and in the same order, every other bound name is a target, no name is bound twice, and a name that
is no target has the value it had, or none if it had none. So the final store of a program begins
with the declared names, in order of declaration. -/
theorem Stmt.exec_frame (settings : Settings) (console : Console) :
    (∀ (s : Stmt) (store final : Store) (after : Console),
      s.EndsIn settings store console (.done final after) →
      (∃ added, final.names = store.names ++ added ∧ ∀ name ∈ added, name ∈ s.targets) ∧
      final.names.Nodup ∧ ∀ name, name ∉ s.targets → final.get? name = store.get? name) ∧
    ∀ (program : Program) (final : Store) (after : Console),
      program.EndsIn settings console (.done final after) →
      ∃ added, final.names = program.vars.eraseDups ++ added ∧
        ∀ name ∈ added, name ∈ program.body.targets := by
  constructor
  · intro s store final after ends
    exact ⟨ends.framed.names, final.distinct, ends.framed.others⟩
  · intro program final after ends
    obtain ⟨between, bodyEnds, _⟩ := ends.done
    have framed := bodyEnds.framed.names
    rwa [Store.names_initial] at framed

/-- A loop that sums up its counter, from a store and as a program that declares a name twice. The
counter is bound last, and the name that is not written keeps its value. -/
theorem Stmt.exec_frame_sum : ∃ s : Stmt,
    s = .forTo ⟨"i"⟩ (.int 1) (.int 2) (.assign ⟨"n"⟩ (.add (.named "n") (.named "i"))) ∧
    (∃ final after, s.EndsIn {} (.ofEntries [(⟨"k"⟩, 5), (⟨"n"⟩, 0)])
        { source := .script [], sink := .buffer } (.done final after) ∧
      final.entries = [(⟨"k"⟩, 5), (⟨"n"⟩, 3), (⟨"i"⟩, 3)] ∧
      (∃ added, final.names = [⟨"k"⟩, ⟨"n"⟩] ++ added ∧ ∀ name ∈ added, name ∈ s.targets) ∧
      ∀ name, name ∉ s.targets →
        final.get? name = (Store.ofEntries [(⟨"k"⟩, 5), (⟨"n"⟩, 0)]).get? name) ∧
    ∃ final after, Program.EndsIn {} ⟨"sum", [⟨"n"⟩, ⟨"k"⟩, ⟨"n"⟩], s⟩
        { source := .script [], sink := .buffer } (.done final after) ∧
      final.entries = [(⟨"n"⟩, 3), (⟨"k"⟩, 0), (⟨"i"⟩, 3)] ∧
      ∃ added, final.names = [⟨"n"⟩, ⟨"k"⟩] ++ added ∧ ∀ name ∈ added, name ∈ s.targets := by
  obtain ⟨s, known⟩ : ∃ s : Stmt, s = .forTo ⟨"i"⟩ (.int 1) (.int 2)
      (.assign ⟨"n"⟩ (.add (.named "n") (.named "i"))) := ⟨_, rfl⟩
  have ends : s.EndsIn {} (.ofEntries [(⟨"k"⟩, 5), (⟨"n"⟩, 0)])
      { source := .script [], sink := .buffer }
      (.done (.ofEntries [(⟨"k"⟩, 5), (⟨"n"⟩, 3), (⟨"i"⟩, 3)])
        { source := .script [], sink := .buffer,
          events := #[.assigned ⟨"n"⟩ 1, .assigned ⟨"n"⟩ 3, .loopFinished .forTo 2] }) := by
    refine ⟨nofun, 3, ?_⟩
    rw [known]
    decide +kernel
  have programEnds : Program.EndsIn {} ⟨"sum", [⟨"n"⟩, ⟨"k"⟩, ⟨"n"⟩], s⟩
      { source := .script [], sink := .buffer }
      (.done (.ofEntries [(⟨"n"⟩, 3), (⟨"k"⟩, 0), (⟨"i"⟩, 3)])
        { source := .script [], sink := .buffer,
          events := #[.started "sum" 3, .assigned ⟨"n"⟩ 1, .assigned ⟨"n"⟩ 3,
            .loopFinished .forTo 2, .finished 3] }) := by
    refine ⟨nofun, 3, ?_⟩
    rw [known]
    decide +kernel
  have frame := exec_frame {} { source := .script [], sink := .buffer }
  obtain ⟨names, _, others⟩ := frame.1 s _ _ _ ends
  exact ⟨s, known, ⟨_, _, ends, by decide, names, others⟩,
    _, _, programEnds, by decide, frame.2 _ _ _ programEnds⟩

end ImpLang
