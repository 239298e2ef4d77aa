import ImpLang.Proofs.Lifting
import ImpLang.Proofs.Variables
import Mathlib.Logic.Relation

/-!
# What execution does

A run changes its store and console in seven ways only, listed by `Effect`; one of them sets a
counter of a loop. `exec_effects` says that every run is a chain of them, a failed one as much as
one that is done. Whatever each effect keeps, every run then keeps: bound names stay bound
(`Effects.bound`), and a console only goes on from where it was (`Effects.precedes`), printing after
what is printed and reading on in the same source. `Console.advance` says how far it has gone.
-/

namespace ImpLang

/-- One thing that execution does to a store and a console, with these counters in its loops. -/
inductive Effect (prompt : String) (counters : Finset Name) :
    Store × Console → Store × Console → Prop
  | assign (store : Store) (console : Console) (name : Name) (value : Int64) :
      Effect prompt counters (store, console)
        (store.bind name value, console.record (.assigned name value))
  /-- The counter of a loop is set without an event. -/
  | count (store : Store) (console : Console) {name : Name} (counter : name ∈ counters)
      (value : Int64) :
      Effect prompt counters (store, console) (store.bind name value, console)
  | accept (store : Store) {console after : Console} (name : Name) {line : String} {value : Int64}
      (taken : console.readLine? = some (line, after))
      (number : Numeral.signed (Text.trim line) = .ok value) :
      Effect prompt counters (store, console)
        (store.bind name value, after.record (.read name value))
  | refuse (store : Store) {console after : Console} {line : String} {defect : Numeral.Defect}
      (taken : console.readLine? = some (line, after))
      (defective : Numeral.signed (Text.trim line) = .error defect) :
      Effect prompt counters (store, console) (store, after.refuse prompt defect (Text.trim line))
  | starve (store : Store) (console : Console) :
      Effect prompt counters (store, console) (store, console.starve)
  | write (store : Store) (console : Console) (text : String) :
      Effect prompt counters (store, console) (store, console.print (.written text))
  | finish (store : Store) (console : Console) (kind : LoopKind) (rounds : UInt64) :
      Effect prompt counters (store, console) (store, console.record (.loopFinished kind rounds))

/-- A chain of effects. -/
abbrev Effects (prompt : String) (counters : Finset Name) :
    Store × Console → Store × Console → Prop :=
  Relation.ReflTransGen (Effect prompt counters)

/-- An outcome that effects lead to. The store of a failure is lost, but there was one. -/
def Outcome.Reached (prompt : String) (counters : Finset Name) (start : Store × Console) :
    Outcome Fault → Prop :=
  All (fun store console => Effects prompt counters start (store, console))
    (fun _ console => ∃ store, Effects prompt counters start (store, console))

/-- Reading refuses lines until it accepts one, or there is none left. -/
theorem seekNumber_effects (prompt : String) (target : Name) (lines : Nat) (store : Store)
    {counters : Finset Name} {start : Store × Console} {console : Console}
    (before : Effects prompt counters start (store, console)) :
    match seekNumber prompt target lines console with
    | (some value, after) => Effects prompt counters start (store.bind target value, after)
    | (none, after) => Effects prompt counters start (store, after) := by
  induction lines generalizing console with
  | zero => exact before.tail (.starve store console)
  | succ lines ih =>
    unfold seekNumber
    cases taken : console.readLine? with
    | none => exact before.tail (.starve store console)
    | some found =>
      obtain ⟨line, after⟩ := found
      cases number : Numeral.signed (Text.trim line) with
      | ok value => simpa only [number] using before.tail (.accept store target taken number)
      | error defect => simpa only [number] using ih (before.tail (.refuse store taken number))

/-- Loops whose control sets at most a counter. -/
theorem LoopControl.iterate_effects {control : LoopControl} {limit : Option UInt64}
    {body : Store → Console → Outcome Fault} {prompt : String} {counters : Finset Name}
    {start : Store × Console}
    (leaves : ∀ store next again, control.leave store = .ok (next, again) →
      next = store ∨ ∃ name ∈ counters, ∃ value, next = store.bind name value)
    (within : ∀ store console, Effects prompt counters start (store, console) →
      (body store console).Reached prompt counters start)
    (fuel : Nat) (rounds : UInt64) {store : Store} {console : Console}
    (before : Effects prompt counters start (store, console)) :
    (control.iterate limit body fuel rounds store console).Reached prompt counters start := by
  have left {store next : Store} {again : Bool} {console : Console}
      (reached : Effects prompt counters start (store, console))
      (answer : control.leave store = .ok (next, again)) :
      Effects prompt counters start (next, console) := by
    rcases leaves store next again answer with same | ⟨name, counter, value, set⟩
    · rw [same]
      exact reached
    · rw [set]
      exact reached.tail (.count store console counter value)
  refine iterate_all (fun store console => Effects prompt counters start (store, console))
    ?enterFails ?stops ?countFails ?goesOn fuel rounds before
  case enterFails => exact fun reached _ => ⟨_, reached⟩
  case stops => exact fun rounds reached _ => reached.tail (.finish _ _ control.kind rounds)
  case countFails => exact fun reached _ _ => ⟨_, reached⟩
  case goesOn =>
    intro store console reached _
    refine (within store console reached).mono ?_ fun _ _ lost => lost
    intro after console reached
    refine ⟨fun fault _ => ⟨after, reached⟩, fun next answer => left reached answer, ?_⟩
    intro next rounds answer
    exact (left reached answer).tail (.finish _ _ control.kind rounds)

namespace Stmt

/-- Every run is a chain of effects. -/
theorem exec_effects (settings : Settings) (fuel : Nat) {s : Stmt} {counters : Finset Name}
    (inside : s.counters ⊆ counters) {start : Store × Console} {store : Store} {console : Console}
    (before : Effects settings.prompt counters start (store, console)) :
    (s.exec settings fuel store console).Reached settings.prompt counters start := by
  induction s generalizing store console with
  | skip => exact .done before
  | assign target value =>
    refine .attempt (fun fault _ => ⟨store, before⟩) fun n _ => ?_
    exact .done (before.tail (.assign store console target n))
  | seq first rest firstEffects restEffects =>
    obtain ⟨firstInside, restInside⟩ := Finset.union_subset_iff.mp inside
    refine (firstEffects firstInside before).andThen fun middle console reached => ?_
    exact restEffects restInside reached
  | ifThenElse cond yes no yesEffects noEffects =>
    obtain ⟨yesInside, noInside⟩ := Finset.union_subset_iff.mp inside
    refine .attempt (fun fault _ => ⟨store, before⟩) fun holds _ => ?_
    cases holds with
    | false => exact noEffects noInside before
    | true => exact yesEffects yesInside before
  | ifThen cond body bodyEffects =>
    refine .attempt (fun fault _ => ⟨store, before⟩) fun holds _ => ?_
    cases holds with
    | false => exact .done before
    | true => exact bodyEffects inside before
  | whileDo cond body bodyEffects =>
    refine LoopControl.iterate_effects ?_ (fun store console => bodyEffects inside) fuel 0 before
    intro store next again answer
    cases answer
    exact Or.inl rfl
  | repeatUntil body cond bodyEffects =>
    refine LoopControl.iterate_effects ?_ (fun store console => bodyEffects inside) fuel 0 before
    intro store next again answer
    exact Or.inl (LoopControl.leave_repeatUntil_ok.mp answer).1
  | doWhile body cond bodyEffects =>
    refine LoopControl.iterate_effects ?_ (fun store console => bodyEffects inside) fuel 0 before
    intro store next again answer
    exact Or.inl (LoopControl.leave_doWhile_ok.mp answer).1
  | forTo counter low high body bodyEffects =>
    obtain ⟨counts, bodyInside⟩ := Finset.insert_subset_iff.mp inside
    refine .attempt (fun fault _ => ⟨store, before⟩) fun n _ => ?_
    refine LoopControl.iterate_effects ?_ (fun store console => bodyEffects bodyInside) fuel 0
      (before.tail (.count store console counts n))
    intro store next again answer
    obtain ⟨current, increased, _, _, set, _⟩ := LoopControl.leave_forTo_ok.mp answer
    exact Or.inr ⟨counter, counts, increased, set.symm⟩
  | readNum target =>
    have seen := seekNumber_effects settings.prompt target console.source.size store before
    simp only [exec, readNumber]
    generalize seekNumber settings.prompt target console.source.size console = result at seen ⊢
    obtain ⟨number, after⟩ := result
    cases number with
    | none => exact .failed ⟨store, seen⟩
    | some n => exact .done seen
  | writeNum value =>
    refine .attempt (fun fault _ => ⟨store, before⟩) fun n _ => ?_
    exact .done (before.tail (.write store console _))
  | writeStr text => exact .done (before.tail (.write store console text))

theorem exec_reached (settings : Settings) (fuel : Nat) (s : Stmt) (store : Store)
    (console : Console) :
    (s.exec settings fuel store console).Reached settings.prompt s.counters (store, console) :=
  exec_effects settings fuel (Finset.Subset.refl s.counters) .refl

end Stmt

/-! ## What all effects keep -/

/-- Reading these lines in turn leads from one source to another. -/
inductive Source.Yields : Source → List String → Source → Prop
  | nothing (source : Source) : Yields source [] source
  | line {source middle last : Source} {line : String} {lines : List String}
      (taken : source.next? = some (line, middle)) (rest : Yields middle lines last) :
      Yields source (line :: lines) last

theorem Source.Yields.append {source middle last : Source} {lines more : List String}
    (first : source.Yields lines middle) (rest : middle.Yields more last) :
    source.Yields (lines ++ more) last := by
  induction first with
  | nothing => exact rest
  | line taken _ ih => exact .line taken (ih rest)

/-- Reading a line changes the source only. -/
theorem Console.readLine?_eq_some_iff {console after : Console} {line : String} :
    console.readLine? = some (line, after) ↔
      ∃ rest, console.source.next? = some (line, rest) ∧
        after = { console with source := rest } := by
  unfold readLine?
  cases console.source.next? with
  | none => simp
  | some found =>
    obtain ⟨text, rest⟩ := found
    simp only [Option.some.injEq, Prod.mk.injEq]
    constructor
    · rintro ⟨rfl, rfl⟩
      exact ⟨rest, ⟨rfl, rfl⟩, rfl⟩
    · rintro ⟨_, ⟨rfl, rfl⟩, rfl⟩
      exact ⟨rfl, rfl⟩

/-- The console after reading on to a source, printing lines and leaving events. -/
def Console.advance (console : Console) (rest : Source) (lines : List Line)
    (events : List Event) : Console where
  source := rest
  sink := console.sink
  printed := console.printed ++ lines.toArray
  events := console.events ++ events.toArray

namespace Console

variable (console : Console) (rest : Source) (lines : List Line) (events : List Event)

theorem advance_self : console.advance console.source [] [] = console := by
  simp [advance]

@[simp] theorem record_advance (event : Event) :
    (console.advance rest lines events).record event =
      console.advance rest lines (events ++ [event]) := by
  simp [advance, record]

theorem advance_record (event : Event) :
    (console.record event).advance rest lines events =
      console.advance rest lines (event :: events) := by
  simp [advance, record]

@[simp] theorem print_advance (line : Line) :
    (console.advance rest lines events).print line =
      console.advance rest (lines ++ [line])
        (events ++ console.sink.complaint (console.printed.size + lines.length)) := by
  simp [advance, print]

@[simp] theorem starve_advance :
    (console.advance rest lines events).starve =
      console.advance rest lines (events ++ rest.complaint) := by
  simp [advance, starve]

end Console

/-- A console that another can become: more is printed, and more is read. -/
structure Console.Precedes (before after : Console) : Prop where
  sink : after.sink = before.sink
  printed : ∃ shown, after.printed = before.printed ++ shown
  source : ∃ lines, before.source.Yields lines after.source

namespace Console.Precedes

theorem refl (console : Console) : console.Precedes console :=
  ⟨rfl, ⟨#[], by simp⟩, ⟨[], .nothing _⟩⟩

theorem trans {before middle after : Console} (first : before.Precedes middle)
    (second : middle.Precedes after) : before.Precedes after := by
  obtain ⟨sink, ⟨shown, printed⟩, ⟨lines, source⟩⟩ := first
  obtain ⟨sink', ⟨shown', printed'⟩, ⟨lines', source'⟩⟩ := second
  refine ⟨sink'.trans sink, ⟨shown ++ shown', ?_⟩, ⟨lines ++ lines', source.append source'⟩⟩
  rw [printed', printed, Array.append_assoc]

theorem record (console : Console) (event : Event) : console.Precedes (console.record event) :=
  ⟨rfl, ⟨#[], by simp [Console.record]⟩, ⟨[], .nothing _⟩⟩

theorem print (console : Console) (line : Line) : console.Precedes (console.print line) :=
  ⟨rfl, ⟨#[line], by simp [Console.print]⟩, ⟨[], .nothing _⟩⟩

theorem starve (console : Console) : console.Precedes console.starve :=
  ⟨rfl, ⟨#[], by simp [Console.starve]⟩, ⟨[], .nothing _⟩⟩

theorem readLine {console after : Console} {line : String}
    (taken : console.readLine? = some (line, after)) : console.Precedes after := by
  obtain ⟨rest, found, rfl⟩ := readLine?_eq_some_iff.mp taken
  exact ⟨rfl, ⟨#[], by simp⟩, ⟨[line], .line found (.nothing _)⟩⟩

end Console.Precedes

namespace Effects

variable {prompt : String} {counters : Finset Name} {before after : Store × Console}

theorem precedes (effects : Effects prompt counters before after) : before.2.Precedes after.2 := by
  induction effects with
  | refl => exact .refl _
  | tail _ effect ih =>
    refine ih.trans ?_
    cases effect with
    | assign => exact .record _ _
    | count => exact .refl _
    | accept _ _ taken => exact (Console.Precedes.readLine taken).trans (.record _ _)
    | refuse _ taken =>
      exact ((Console.Precedes.readLine taken).trans (.record _ _)).trans (.print _ _)
    | starve => exact .starve _
    | write => exact .print _ _
    | finish => exact .record _ _

theorem bound {name : Name} (effects : Effects prompt counters before after)
    (member : name ∈ before.1.names) : name ∈ after.1.names := by
  induction effects with
  | refl => exact member
  | tail _ effect ih =>
    cases effect with
    | assign | count | accept => exact Store.mem_names_bind.mpr (Or.inr ih)
    | refuse | starve | write | finish => exact ih

end Effects

/-- A name that is bound before a statement is bound after it. -/
theorem Stmt.exec_bound (settings : Settings) (fuel : Nat) (s : Stmt) (store : Store)
    (console : Console) (name : Name) :
    (s.exec settings fuel store console).All
      (fun after _ => name ∈ store.names → name ∈ after.names) (fun _ _ => True) := by
  refine (exec_reached settings fuel s store console).mono ?_ fun _ _ _ => trivial
  intro after console effects member
  exact effects.bound member

end ImpLang
