import ImpLang.Proofs.Effects
import ImpLang.Proofs.Ending
import ImpLang.Proofs.Failure

/-!
# Names are interchangeable

Names are compared with each other and put into faults and events, and nothing else is done with
them. So a program whose names are all replaced by others, different ones by different ones, reads
and prints the same and binds the new names in the order of the old. Lookup and binding respect a
renaming of stores (`Store.RenamedBy`); expressions, loops and statements then do, each by induction
(`exec_renamed`), and so do programs (`run_rename`).
-/

namespace ImpLang

/-! ## Renaming -/

/-- The expression with other variables. -/
def Expr.rename (r : Name → Name) : Expr → Expr
  | .lit value => .lit value
  | .var name => .var (r name)
  | .binary op left right => .binary op (left.rename r) (right.rename r)
  | .not operand => .not (operand.rename r)

/-- The statement with other variables, targets and counters. -/
def Stmt.rename (r : Name → Name) : Stmt → Stmt
  | .skip => .skip
  | .assign target value => .assign (r target) (value.rename r)
  | .seq first rest => .seq (first.rename r) (rest.rename r)
  | .ifThenElse cond yes no => .ifThenElse (cond.rename r) (yes.rename r) (no.rename r)
  | .ifThen cond body => .ifThen (cond.rename r) (body.rename r)
  | .whileDo cond body => .whileDo (cond.rename r) (body.rename r)
  | .repeatUntil body cond => .repeatUntil (body.rename r) (cond.rename r)
  | .doWhile body cond => .doWhile (body.rename r) (cond.rename r)
  | .forTo counter low high body =>
    .forTo (r counter) (low.rename r) (high.rename r) (body.rename r)
  | .readNum target => .readNum (r target)
  | .writeNum value => .writeNum (value.rename r)
  | .writeStr text => .writeStr text

/-- The program with other declarations and another body, under the same title. -/
def Program.rename (r : Name → Name) (program : Program) : Program :=
  { program with vars := program.vars.map r, body := program.body.rename r }

/-- The place, with another name if it is an assignment. -/
def Site.rename (r : Name → Name) : Site → Site
  | .assignment target => .assignment (r target)
  | .operator op => .operator op
  | .negation => .negation
  | .named words => .named words

/-- The fault, with another name wherever it has one. -/
def Fault.rename (r : Name → Name) : Fault → Fault
  | .unbound name => .unbound (r name)
  | .mismatch site expected got => .mismatch (site.rename r) expected got
  | .inputClosed target => .inputClosed (r target)
  | .divisionByZero op => .divisionByZero op
  | .overflow op => .overflow op
  | .budgetExceeded limit => .budgetExceeded limit

/-- The event, with another name wherever it has one. -/
def Event.rename (r : Name → Name) : Event → Event
  | .assigned target value => .assigned (r target) value
  | .read target value => .read (r target) value
  | .failed fault => .failed (fault.rename r)
  | .started program declared => .started program declared
  | .malformed defect text => .malformed defect text
  | .readFailed reason => .readFailed reason
  | .writeFailed reason => .writeFailed reason
  | .loopFinished kind rounds => .loopFinished kind rounds
  | .finished bound => .finished bound

/-- The second store has the entries of the first, in order, with other names. -/
def Store.RenamedBy (r : Name → Name) (store store' : Store) : Prop :=
  store'.entries = store.entries.map fun entry => (r entry.1, entry.2)

/-- The second fault is the first with other names. -/
def Fault.RenamedBy (r : Name → Name) (fault fault' : Fault) : Prop :=
  fault' = fault.rename r

/-- From one console on, the same is read and printed, and the events are the same with other
names. -/
def Console.RenamedBy (r : Name → Name) (before console console' : Console) : Prop :=
  ∃ rest lines events, console = before.advance rest lines events ∧
    console' = before.advance rest lines (events.map (Event.rename r))

variable {r : Name → Name}

/-! ## Stores -/

namespace Store.RenamedBy

variable {store store' : Store}

theorem names (renamed : store.RenamedBy r store') : store'.names = store.names.map r := by
  unfold Store.names
  rw [renamed, List.map_map, List.map_map]
  rfl

theorem size (renamed : store.RenamedBy r store') : store'.size = store.size := by
  unfold Store.size
  rw [renamed, List.length_map]

theorem get? (injective : Function.Injective r) (renamed : store.RenamedBy r store')
    (name : Name) : store'.get? (r name) = store.get? name := by
  apply Option.ext
  intro value
  rw [get?_eq_some_iff, get?_eq_some_iff, renamed, List.mem_map]
  constructor
  · intro found
    obtain ⟨⟨other, _⟩, member, same⟩ := found
    cases injective (Prod.mk.inj same).1
    cases (Prod.mk.inj same).2
    exact member
  · intro member
    exact ⟨_, member, rfl⟩

/-- A name and the one it is replaced by have the same place. -/
theorem slot? (renamed : store.RenamedBy r store') {name : Name}
    {slot : Fin store.entries.length} (found : store.slot? name = some slot) :
    ∃ slot', store'.slot? (r name) = some slot' ∧ slot'.val = slot.val := by
  have there : store.names[slot.val]? = some name :=
    (store.inStep name slot).mp (slot?_eq_some_iff.mp found)
  have there' : store'.names[slot.val]? = some (r name) := by
    rw [renamed.names, List.getElem?_map, there, Option.map_some]
  have placed := (store'.inStep (r name) slot).mpr there'
  exact ⟨⟨slot.val, store'.inStep.lt_length placed⟩, slot?_eq_some_iff.mpr placed, rfl⟩

theorem bind (injective : Function.Injective r) (renamed : store.RenamedBy r store')
    (name : Name) (value : Int64) :
    (store.bind name value).RenamedBy r (store'.bind (r name) value) := by
  unfold RenamedBy
  cases found : store.slot? name with
  | some slot =>
    obtain ⟨slot', found', same⟩ := renamed.slot? found
    rw [entries_bind_of_slot? found, entries_bind_of_slot? found', same, renamed, List.map_set]
  | none =>
    have absent := slot?_eq_none_iff.mp found
    have absent' : r name ∉ store'.names := by
      rw [renamed.names, List.mem_map_of_injective injective]
      exact absent
    rw [entries_bind_of_notMem absent, entries_bind_of_notMem absent', renamed, List.map_append]
    rfl

theorem initial (injective : Function.Injective r) (declared : List Name) :
    (Store.initial declared).RenamedBy r (Store.initial (declared.map r)) := by
  unfold Store.initial
  rw [List.foldl_map]
  apply List.foldl_rel
  · rfl
  · intro name _ store store' renamed
    exact renamed.bind injective name 0

theorem lookup (injective : Function.Injective r) (renamed : store.RenamedBy r store')
    (name : Name) :
    Outcome.Matched (Fault.RenamedBy r) Eq (store.lookup name) (store'.lookup (r name)) := by
  unfold Store.lookup
  rw [renamed.get? injective]
  cases store.get? name with
  | none => exact .error rfl
  | some value => exact .ok rfl

end Store.RenamedBy

/-! ## Expressions -/

section Faults

variable {fault : Fault}

/-- The faults of operators have no names. -/
theorem ArithOp.rename_fault {op : ArithOp} {a b : Int64} (failed : op.apply a b = .error fault) :
    fault.RenamedBy r fault := by
  rcases apply_eq_error failed with ⟨_, rfl⟩ | rfl
  · rfl
  · rfl

theorem BinaryOp.rename_fault {op : BinaryOp} {left right : Value}
    (failed : op.apply left right = .error fault) : fault.RenamedBy r fault := by
  rcases apply_eq_error failed with ⟨_, _, ⟨_, rfl⟩ | rfl⟩ | ⟨_, _, rfl⟩
  · rfl
  · rfl
  · rfl

end Faults

namespace Value

theorem expectInt_renamed (value : Value) (site : Site) :
    Outcome.Matched (Fault.RenamedBy r) Eq (value.expectInt site)
      (value.expectInt (site.rename r)) := by
  cases value with
  | int n => exact .ok rfl
  | bool b => exact .error rfl

theorem expectBool_renamed (value : Value) (site : Site) :
    Outcome.Matched (Fault.RenamedBy r) Eq (value.expectBool site)
      (value.expectBool (site.rename r)) := by
  cases value with
  | int n => exact .error rfl
  | bool b => exact .ok rfl

end Value

namespace Expr

variable {store store' : Store}

theorem eval_renamed (injective : Function.Injective r) (renamed : store.RenamedBy r store')
    (e : Expr) :
    Outcome.Matched (Fault.RenamedBy r) Eq (e.eval store) ((e.rename r).eval store') := by
  induction e with
  | lit value => exact .ok rfl
  | var name =>
    have found := renamed.lookup injective name
    rw [rename, eval, eval]
    generalize store.lookup name = result, store'.lookup (r name) = result' at found ⊢
    cases found with
    | error related => exact .error related
    | ok same => exact .ok (congrArg Value.int same)
  | binary op left right leftRenamed rightRenamed =>
    refine leftRenamed.bind fun a a' same => ?_
    subst same
    refine rightRenamed.bind fun b b' same => ?_
    subst same
    exact .self _ fun fault failed => BinaryOp.rename_fault failed
  | not operand operandRenamed =>
    refine operandRenamed.bind fun a a' same => ?_
    subst same
    refine (a.expectBool_renamed .negation).bind fun b b' same => ?_
    exact .ok (congrArg (fun b => Value.bool !b) same)

theorem evalInt_renamed (injective : Function.Injective r) (renamed : store.RenamedBy r store')
    (e : Expr) (site : Site) :
    Outcome.Matched (Fault.RenamedBy r) Eq (e.evalInt store site)
      ((e.rename r).evalInt store' (site.rename r)) := by
  refine (eval_renamed injective renamed e).bind fun value value' same => ?_
  subst same
  exact value.expectInt_renamed site

theorem evalBool_renamed (injective : Function.Injective r) (renamed : store.RenamedBy r store')
    (e : Expr) (site : Site) :
    Outcome.Matched (Fault.RenamedBy r) Eq (e.evalBool store site)
      ((e.rename r).evalBool store' (site.rename r)) := by
  refine (eval_renamed injective renamed e).bind fun value value' same => ?_
  subst same
  exact value.expectBool_renamed site

end Expr

/-! ## Consoles -/

theorem Sink.complaint_rename (sink : Sink) (before : Nat) :
    (sink.complaint before).map (Event.rename r) = sink.complaint before := by
  unfold complaint
  cases sink.refusal? before <;> rfl

theorem Source.complaint_rename (source : Source) :
    source.complaint.map (Event.rename r) = source.complaint := by
  unfold complaint
  cases source.failure? <;> rfl

namespace Console.RenamedBy

variable {before console console' : Console}

theorem refl (before : Console) : RenamedBy r before before before :=
  ⟨before.source, [], [], before.advance_self.symm, before.advance_self.symm⟩

theorem source (renamed : RenamedBy r before console console') :
    console'.source = console.source := by
  obtain ⟨rest, lines, events, rfl, rfl⟩ := renamed
  rfl

theorem record (renamed : RenamedBy r before console console') (event : Event) :
    RenamedBy r before (console.record event) (console'.record (event.rename r)) := by
  obtain ⟨rest, lines, events, rfl, rfl⟩ := renamed
  exact ⟨rest, lines, events ++ [event], by simp, by simp⟩

theorem print (renamed : RenamedBy r before console console') (line : Line) :
    RenamedBy r before (console.print line) (console'.print line) := by
  obtain ⟨rest, lines, events, rfl, rfl⟩ := renamed
  refine ⟨rest, lines ++ [line],
    events ++ before.sink.complaint (before.printed.size + lines.length), by simp, ?_⟩
  rw [Console.print_advance, List.map_append, Sink.complaint_rename]

theorem starve (renamed : RenamedBy r before console console') :
    RenamedBy r before console.starve console'.starve := by
  obtain ⟨rest, lines, events, rfl, rfl⟩ := renamed
  refine ⟨rest, lines, events ++ rest.complaint, by simp, ?_⟩
  rw [Console.starve_advance, List.map_append, Source.complaint_rename]

theorem readOn (renamed : RenamedBy r before console console') (rest : Source) :
    RenamedBy r before { console with source := rest } { console' with source := rest } := by
  obtain ⟨_, lines, events, rfl, rfl⟩ := renamed
  exact ⟨rest, lines, events, rfl, rfl⟩

end Console.RenamedBy

/-! ## Statements -/

/-- Both runs need more fuel, or both are done in stores that are renamed, or both fail of faults
that are; and so are their consoles. -/
def Outcome.RenamedBy (r : Name → Name) (before : Console) : Outcome Fault → Outcome Fault → Prop :=
  Rel (fun store console store' console' =>
      store.RenamedBy r store' ∧ Console.RenamedBy r before console console')
    (fun fault console fault' console' =>
      fault.RenamedBy r fault' ∧ Console.RenamedBy r before console console')

variable {before console console' : Console} {store store' : Store}

theorem Outcome.RenamedBy.attempt {α : Type} {result result' : Except Fault α}
    {next next' : α → Outcome Fault} (tried : Matched (Fault.RenamedBy r) Eq result result')
    (same : Console.RenamedBy r before console console')
    (rest : ∀ value, (next value).RenamedBy r before (next' value)) :
    (Outcome.attempt result console next).RenamedBy r before
      (Outcome.attempt result' console' next') := by
  cases tried with
  | error related => exact .failed ⟨related, same⟩
  | ok equal =>
    subst equal
    exact rest _

/-- Two loops whose controls give renamed answers, round by round. -/
theorem LoopControl.iterate_renamed (control control' : LoopControl) (limit : Option UInt64)
    {body body' : Store → Console → Outcome Fault} (kind : control'.kind = control.kind)
    (enters : ∀ {store store' : Store}, store.RenamedBy r store' →
      Outcome.Matched (Fault.RenamedBy r) Eq (control.enter store) (control'.enter store'))
    (leaves : ∀ {store store' : Store}, store.RenamedBy r store' →
      Outcome.Matched (Fault.RenamedBy r)
        (fun left left' => left.1.RenamedBy r left'.1 ∧ left.2 = left'.2)
        (control.leave store) (control'.leave store'))
    (bodyRenamed : ∀ {store store' : Store} {console console' : Console},
      store.RenamedBy r store' → Console.RenamedBy r before console console' →
      (body store console).RenamedBy r before (body' store' console'))
    (fuel : Nat) (renamed : store.RenamedBy r store')
    (same : Console.RenamedBy r before console console') :
    (control.iterate limit body fuel 0 store console).RenamedBy r before
      (control'.iterate limit body' fuel 0 store' console') := by
  refine iterate_rel ?enter ?count ?go ?finish fuel rfl ⟨renamed, same⟩
  case enter =>
    intro store console store' console' related
    exact (enters related.1).mono fun _ _ renamed => ⟨renamed, related.2⟩
  case count =>
    intro rounds rounds' store console store' console' counted related
    subst counted
    refine .self _ fun fault refused => ⟨?_, related.2⟩
    obtain ⟨most, _, _, rfl⟩ := beginRound_eq_error_iff.mp refused
    rfl
  case go =>
    intro store console store' console' next next' related goesOn
    refine .andThen (bodyRenamed related.1 related.2) ?_
    intro after console after' console' related
    refine .attempt ((leaves related.1).mono fun _ _ renamed => ⟨renamed, related.2⟩) ?_
    intro left left' answers
    obtain ⟨next, again⟩ := left
    obtain ⟨next', _⟩ := left'
    obtain ⟨renamed, rfl⟩ := answers
    exact goesOn again next console next' console' ⟨renamed, related.2⟩
  case finish =>
    intro rounds rounds' store console store' console' counted related
    subst counted
    rw [kind]
    exact ⟨related.1, related.2.record (.loopFinished control.kind rounds)⟩

namespace LoopControl

theorem enter_forTo_renamed (injective : Function.Injective r) (renamed : store.RenamedBy r store')
    (counter : Name) (high : Expr) :
    Outcome.Matched (Fault.RenamedBy r) Eq ((forTo counter high).enter store)
      ((forTo (r counter) (high.rename r)).enter store') := by
  refine (renamed.lookup injective counter).bind fun current current' same => ?_
  subst same
  refine (high.evalInt_renamed injective renamed _).bind fun bound bound' same => ?_
  exact .ok (congrArg (fun bound => decide (current ≤ bound)) same)

theorem leave_forTo_renamed (injective : Function.Injective r) (renamed : store.RenamedBy r store')
    (counter : Name) (high : Expr) :
    Outcome.Matched (Fault.RenamedBy r)
      (fun left left' => left.1.RenamedBy r left'.1 ∧ left.2 = left'.2)
      ((forTo counter high).leave store) ((forTo (r counter) (high.rename r)).leave store') := by
  refine (renamed.lookup injective counter).bind fun current current' same => ?_
  subst same
  have adds : Outcome.Matched (Fault.RenamedBy r) Eq (ArithOp.add.apply current 1)
      (ArithOp.add.apply current 1) := .self _ fun fault failed => ArithOp.rename_fault failed
  refine adds.bind fun next next' same => ?_
  subst same
  exact .ok ⟨renamed.bind injective counter next, rfl⟩

end LoopControl

namespace Stmt

/-- The induction is on what is left of the source. -/
theorem exec_readNum_renamed (injective : Function.Injective r) (settings : Settings) (fuel : Nat)
    (target : Name) (renamed : store.RenamedBy r store')
    (same : Console.RenamedBy r before console console') :
    ((Stmt.readNum target).exec settings fuel store console).RenamedBy r before
      ((Stmt.readNum (r target)).exec settings fuel store' console') := by
  induction bound : console.source.size using Nat.strongRecOn generalizing console console' with
  | ind size ih =>
    rw [exec_readNum, exec_readNum, same.source]
    cases taken : console.source.next? with
    | none => exact .failed ⟨rfl, same.starve⟩
    | some found =>
      obtain ⟨line, rest⟩ := found
      have smaller := Source.size_of_next? taken
      cases number : Numeral.signed (Text.trim line) with
      | ok n =>
        simp only [number]
        exact .done ⟨renamed.bind injective target n, (same.readOn rest).record (.read target n)⟩
      | error defect =>
        simp only [number]
        refine ih rest.size (by omega) ?_ rfl
        exact ((same.readOn rest).record (.malformed defect (Text.trim line))).print _

theorem exec_renamed (injective : Function.Injective r) (settings : Settings) (fuel : Nat)
    (s : Stmt) (renamed : store.RenamedBy r store')
    (same : Console.RenamedBy r before console console') :
    (s.exec settings fuel store console).RenamedBy r before
      ((s.rename r).exec settings fuel store' console') := by
  induction s generalizing store store' console console' with
  | skip => exact .done ⟨renamed, same⟩
  | assign target value =>
    refine .attempt (value.evalInt_renamed injective renamed (.assignment target)) same fun n => ?_
    exact .done ⟨renamed.bind injective target n, same.record (.assigned target n)⟩
  | seq first rest firstRenamed restRenamed =>
    refine .andThen (firstRenamed renamed same) ?_
    intro middle console middle' console' related
    exact restRenamed related.1 related.2
  | ifThenElse cond yes no yesRenamed noRenamed =>
    refine .attempt (cond.evalBool_renamed injective renamed (.statement .ifThenElse)) same ?_
    intro holds
    cases holds with
    | false => exact noRenamed renamed same
    | true => exact yesRenamed renamed same
  | ifThen cond body bodyRenamed =>
    refine .attempt (cond.evalBool_renamed injective renamed (.statement .ifThen)) same ?_
    intro holds
    cases holds with
    | false => exact .done ⟨renamed, same⟩
    | true => exact bodyRenamed renamed same
  | whileDo cond body bodyRenamed =>
    refine LoopControl.iterate_renamed (.whileDo cond) (.whileDo (cond.rename r)) _ rfl ?_ ?_
      bodyRenamed fuel renamed same
    · exact fun renamed => cond.evalBool_renamed injective renamed (.statement .whileDo)
    · exact fun renamed => .ok ⟨renamed, rfl⟩
  | repeatUntil body cond bodyRenamed =>
    refine LoopControl.iterate_renamed (.repeatUntil cond) (.repeatUntil (cond.rename r)) _ rfl
      (fun _ => .ok rfl) ?_ bodyRenamed fuel renamed same
    intro store store' renamed
    refine (cond.evalBool_renamed injective renamed (.statement .repeatUntil)).bind ?_
    intro stop stop' answer
    exact .ok ⟨renamed, congrArg (!·) answer⟩
  | doWhile body cond bodyRenamed =>
    refine LoopControl.iterate_renamed (.doWhile cond) (.doWhile (cond.rename r)) _ rfl
      (fun _ => .ok rfl) ?_ bodyRenamed fuel renamed same
    intro store store' renamed
    refine (cond.evalBool_renamed injective renamed (.statement .doWhile)).bind ?_
    intro again again' answer
    exact .ok ⟨renamed, answer⟩
  | forTo counter low high body bodyRenamed =>
    refine .attempt (low.evalInt_renamed injective renamed (.statement .forTo)) same fun n => ?_
    refine LoopControl.iterate_renamed (.forTo counter high) (.forTo (r counter) (high.rename r)) _
      rfl ?_ ?_ bodyRenamed fuel (renamed.bind injective counter n) same
    · exact fun renamed => LoopControl.enter_forTo_renamed injective renamed counter high
    · exact fun renamed => LoopControl.leave_forTo_renamed injective renamed counter high
  | readNum target => exact exec_readNum_renamed injective settings fuel target renamed same
  | writeNum value =>
    refine .attempt (value.evalInt_renamed injective renamed (.statement .writeNum)) same ?_
    exact fun n => .done ⟨renamed, same.print _⟩
  | writeStr text => exact .done ⟨renamed, same.print _⟩

end Stmt

/-- A program with its names replaced by others, different ones by different ones, diverges if it
does, and otherwise prints the same lines and reads as far. It is done with the same values under
the new names, in the order of the old, or it fails of the same fault with the name in it
replaced. -/
theorem Program.run_rename (injective : Function.Injective r) (settings : Settings)
    (program : Program) (console : Console) :
    (program.Diverges settings console ∧ (program.rename r).Diverges settings console) ∨
    ∃ rest lines events,
      let after := console.advance rest lines events
      let after' := console.advance rest lines (events.map (Event.rename r))
      (∃ store store', program.EndsIn settings console (.done store after) ∧
        (program.rename r).EndsIn settings console (.done store' after') ∧
        store'.entries = store.entries.map fun entry => (r entry.1, entry.2)) ∨
      ∃ fault : Fault,
        program.EndsIn settings console (.failed (fault.report.withNote program.note) after) ∧
        (program.rename r).EndsIn settings console
          (.failed ((fault.rename r).report.withNote program.note) after') := by
  have begun : Console.RenamedBy r console
      (console.record (.started program.name program.vars.length))
      (console.record (.started (program.rename r).name (program.rename r).vars.length)) := by
    rw [rename, List.length_map]
    exact (Console.RenamedBy.refl console).record _
  have declared := Store.RenamedBy.initial injective program.vars
  rcases program.end_together (program.rename r) fun fuel =>
      program.body.exec_renamed injective settings fuel declared begun with
    both | ⟨store, between, store', between', ⟨renamed, same⟩, ends, ends'⟩ |
    ⟨fault, between, _, between', ⟨rfl, same⟩, ends, ends'⟩
  · exact Or.inl both
  · have finished : Console.RenamedBy r console (between.record (.finished store.size))
        (between'.record (.finished store'.size)) := by
      rw [renamed.size]
      exact same.record _
    obtain ⟨rest, lines, events, reached, reached'⟩ := finished
    rw [reached] at ends
    rw [reached'] at ends'
    exact Or.inr ⟨rest, lines, events, Or.inl ⟨store, store', ends, ends', renamed⟩⟩
  · have failed : Console.RenamedBy r console (between.record (.failed fault))
        (between'.record (.failed (fault.rename r))) := same.record _
    obtain ⟨rest, lines, events, reached, reached'⟩ := failed
    rw [reached] at ends
    rw [reached'] at ends'
    exact Or.inr ⟨rest, lines, events, Or.inr ⟨fault, ends, ends'⟩⟩

/-- A program that reads a number and adds one to it, with its two variables exchanged. -/
theorem Program.run_rename_swap : ∃ (r : Name → Name) (program : Program) (console : Console),
    r = Equiv.swap ⟨"x"⟩ ⟨"y"⟩ ∧
    program = ⟨"next", [⟨"x"⟩],
      .seq (.readNum ⟨"x"⟩) (.assign ⟨"y"⟩ (.add (.named "x") (.int 1)))⟩ ∧
    console = { source := .script ["4"], sink := .buffer } ∧
    program.rename r = ⟨"next", [⟨"y"⟩],
      .seq (.readNum ⟨"y"⟩) (.assign ⟨"x"⟩ (.add (.named "y") (.int 1)))⟩ ∧
    Function.Injective r ∧
    ∃ store after, (program.rename r).EndsIn {} console (.done store after) ∧
      store.entries = [(⟨"y"⟩, 4), (⟨"x"⟩, 5)] ∧ after.source = .script [] := by
  obtain ⟨r, swaps⟩ : ∃ r : Name → Name, r = Equiv.swap ⟨"x"⟩ ⟨"y"⟩ := ⟨_, rfl⟩
  obtain ⟨program, known⟩ : ∃ program : Program, program = ⟨"next", [⟨"x"⟩],
      .seq (.readNum ⟨"x"⟩) (.assign ⟨"y"⟩ (.add (.named "x") (.int 1)))⟩ := ⟨_, rfl⟩
  have injective : Function.Injective r := by
    rw [swaps]
    exact (Equiv.swap _ _).injective
  have ends : program.EndsIn {} { source := .script ["4"], sink := .buffer }
      (.done (.ofEntries [(⟨"x"⟩, 4), (⟨"y"⟩, 5)])
        { source := .script [], sink := .buffer,
          events := #[.started "next" 1, .read ⟨"x"⟩ 4, .assigned ⟨"y"⟩ 5, .finished 2] }) := by
    refine ⟨nofun, 1, ?_⟩
    rw [known]
    decide +kernel
  refine ⟨r, program, _, swaps, known, rfl, ?_, injective, ?_⟩
  · rw [known, swaps]
    decide
  · rcases run_rename injective {} program _ with
      ⟨diverges, _⟩ | ⟨rest, lines, events, ⟨store, store', first, second, renamed⟩ | ⟨_, first, _⟩⟩
    · obtain ⟨_, fuel, reached⟩ := ends
      cases reached.symm.trans (diverges fuel)
    · obtain ⟨rfl, reached⟩ := Outcome.done.inj (ends.unique first)
      refine ⟨store', _, second, ?_, ?_⟩
      · rw [renamed, swaps]
        decide
      · exact (congrArg Console.source reached).symm
    · exact absurd (ends.unique first) nofun

end ImpLang
