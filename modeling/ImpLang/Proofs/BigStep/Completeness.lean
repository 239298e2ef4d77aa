import ImpLang.Proofs.Agreement
import ImpLang.Proofs.BigStep.Soundness

/-!
# What can be derived is what execution ends in

Every rule is matched by execution (`BigStep.completes`), with as much fuel as its premises need.
The rule by which a loop goes on has the loop start again, and so does its count. That makes no
difference without a limit: only the events tell the counts apart, and nothing looks at them.
-/

namespace ImpLang

/-- Begun on any console with this source, a run comes to this ending, output and rest. -/
def Completes (run : Store → Console → Outcome Fault → Prop) (store : Store) (source : Source)
    (ending : Ending) (output : Array Line) (rest : Source) : Prop :=
  ∀ console, console.source = source → ∃ after, console.Shows after output ∧ after.source = rest ∧
    run store console (ending.on after)

theorem Ending.agree_on {ending : Ending} {console : Console} {outcome : Outcome Fault}
    (agree : (ending.on console).Agree Eq outcome) :
    ∃ console', console.Alike console' ∧ outcome = ending.on console' := by
  cases ending with
  | done store => cases agree with | done related => exact ⟨_, related.2, related.1 ▸ rfl⟩
  | failed fault => cases agree with | failed related => exact ⟨_, related.2, related.1 ▸ rfl⟩

namespace LoopControl

variable {control : LoopControl} {settings : Settings} {body : Stmt} {store after next : Store}
  {source between rest : Source} {shown output : Array Line} {ending : Ending} {fault : Fault}

/-- Without a limit, the count at which a loop starts shows in its events only. -/
theorem EndsIn.recount (unlimited : settings.maxIterations = none) {rounds : UInt64}
    {console last : Console}
    (ends : control.EndsIn settings body rounds store console (ending.on last)) (other : UInt64) :
    ∃ last', last.Alike last' ∧
      control.EndsIn settings body other store console (ending.on last') := by
  obtain ⟨_, fuel, reached⟩ := ends
  have alike : (control.iterate settings.maxIterations
      (fun store console => body.exec settings fuel store console) fuel rounds store console).Agree
        Eq (control.iterate settings.maxIterations
      (fun store console => body.exec settings fuel store console) fuel other store console) := by
    refine iterate_alike (fun _ _ => True) (fun _ => rfl) (fun _ => rfl) ?_ ?_ fuel trivial store
      (.refl console)
    · intro rounds rounds' _
      rw [unlimited]
      exact .ok trivial
    · exact fun store console console' => body.exec_alike settings fuel store
  rw [reached] at alike
  obtain ⟨last', same, reached'⟩ := Ending.agree_on alike
  exact ⟨last', same, ending.on_ne_outOfFuel last', fuel, reached'⟩

/-! The ways of a loop, once more, with what can be seen of them. -/

theorem completes_enterFails (failed : control.enter store = .error fault) :
    Completes (control.EndsIn settings body 0) store source (.failed fault) #[] source :=
  fun console start => ⟨console, .refl console, start, .enterFails failed⟩

theorem completes_stop (stops : control.enter store = .ok false) :
    Completes (control.EndsIn settings body 0) store source (.done store) #[] source :=
  fun console start =>
    ⟨console.record (.loopFinished control.kind 0), .refl console, start, .stop stops⟩

theorem completes_bodyFails (unlimited : settings.maxIterations = none)
    (entered : control.enter store = .ok true)
    (failed : Completes (body.EndsIn settings) store source (.failed fault) output rest) :
    Completes (control.EndsIn settings body 0) store source (.failed fault) output rest := by
  intro console start
  obtain ⟨last, shows, reads, ends⟩ := failed console start
  exact ⟨last, shows, reads, .bodyFails entered (beginRound_unlimited unlimited 0) ends⟩

theorem completes_leaveFails (unlimited : settings.maxIterations = none)
    (entered : control.enter store = .ok true)
    (ran : Completes (body.EndsIn settings) store source (.done after) output rest)
    (failed : control.leave after = .error fault) :
    Completes (control.EndsIn settings body 0) store source (.failed fault) output rest := by
  intro console start
  obtain ⟨last, shows, reads, ends⟩ := ran console start
  exact ⟨last, shows, reads,
    .leaveFails entered (beginRound_unlimited unlimited 0) ends failed⟩

theorem completes_last (unlimited : settings.maxIterations = none)
    (entered : control.enter store = .ok true)
    (ran : Completes (body.EndsIn settings) store source (.done after) output rest)
    (left : control.leave after = .ok (next, false)) :
    Completes (control.EndsIn settings body 0) store source (.done next) output rest := by
  intro console start
  obtain ⟨last, shows, reads, ends⟩ := ran console start
  exact ⟨last.record (.loopFinished control.kind (nextRound 0)), shows, reads,
    .last entered (beginRound_unlimited unlimited 0) ends left⟩

theorem completes_again (unlimited : settings.maxIterations = none)
    (entered : control.enter store = .ok true)
    (ran : Completes (body.EndsIn settings) store source (.done after) shown between)
    (left : control.leave after = .ok (next, true))
    (again : Completes (control.EndsIn settings body 0) next between ending output rest) :
    Completes (control.EndsIn settings body 0) store source ending (shown ++ output) rest := by
  intro console start
  obtain ⟨middle, shows, reads, ends⟩ := ran console start
  obtain ⟨last, showsMore, readsMore, goesOn⟩ := again middle reads
  obtain ⟨last', alike, goesOn⟩ := goesOn.recount unlimited (nextRound 0)
  have begun := beginRound_unlimited unlimited 0
  refine ⟨last', shows.trans ⟨?_, ?_⟩, ?_, .again entered begun ends left goesOn⟩
  · rw [← alike.sink, showsMore.1]
  · rw [← alike.printed, showsMore.2]
  · rw [← alike.source, readsMore]

end LoopControl

/-- A task ends in an outcome. -/
def Task.EndsIn (settings : Settings) : Task → Store → Console → Outcome Fault → Prop
  | .stmt s => s.EndsIn settings
  | .count counter high body => (LoopControl.forTo counter high).EndsIn settings body 0

namespace BigStep

variable {settings : Settings} {s first second : Stmt} {store store' : Store} {console : Console}
  {source rest : Source} {output : Array Line} {ending : Ending} {fault : Fault}

/-- A statement that comes down to another, whatever the fuel. -/
theorem completes_of_eq (same : ∀ fuel console,
      first.exec settings fuel store console = second.exec settings fuel store' console)
    (completes : Completes (second.EndsIn settings) store' source ending output rest) :
    Completes (first.EndsIn settings) store source ending output rest := by
  intro console start
  obtain ⟨after, shows, reads, ended, fuel, reached⟩ := completes console start
  exact ⟨after, shows, reads, ended, fuel, (same fuel console).trans reached⟩

/-- A statement that ends at once and leaves the console as it is. -/
theorem completes_at_once
    (reached : ∀ console, s.exec settings 0 store console = ending.on console) :
    Completes (s.EndsIn settings) store source ending #[] source :=
  fun console start =>
    ⟨console, .refl console, start, ending.on_ne_outOfFuel console, 0, reached console⟩

theorem completes_seq {middle : Store} {between : Source} {shown : Array Line}
    (ran : Completes (first.EndsIn settings) store source (.done middle) shown between)
    (goesOn : Completes (second.EndsIn settings) middle between ending output rest) :
    Completes ((Stmt.seq first second).EndsIn settings) store source ending (shown ++ output)
      rest := by
  intro console start
  obtain ⟨half, shows, reads, ends⟩ := ran console start
  obtain ⟨after, showsMore, readsMore, endsMore⟩ := goesOn half reads
  exact ⟨after, shows.trans showsMore, readsMore, ends.seq endsMore⟩

theorem completes_seqFails
    (failed : Completes (first.EndsIn settings) store source (.failed fault) output rest) :
    Completes ((Stmt.seq first second).EndsIn settings) store source (.failed fault) output
      rest := by
  intro console start
  obtain ⟨after, shows, reads, _, fuel, reached⟩ := failed console start
  exact ⟨after, shows, reads, nofun, fuel, by rw [Stmt.exec, reached]; rfl⟩

theorem completes_forStart {counter : Name} {low high : Expr} {body : Stmt} {start : Int64}
    (evaluated : low.evalInt store (.statement .forTo) = .ok start)
    (counts : Completes ((LoopControl.forTo counter high).EndsIn settings body 0)
      (store.bind counter start) source ending output rest) :
    Completes ((Stmt.forTo counter low high body).EndsIn settings) store source ending output
      rest := by
  intro console reading
  obtain ⟨after, shows, reads, ended, fuel, reached⟩ := counts console reading
  refine ⟨after, shows, reads, ended, fuel, ?_⟩
  rw [Stmt.exec, evaluated, Outcome.attempt_ok, reached]

theorem completes_readRefuse {target : Name} {line : String} {between : Source}
    {defect : Numeral.Defect} (taken : source.next? = some (line, between))
    (defective : Numeral.signed (Text.trim line) = .error defect)
    (again : Completes ((Stmt.readNum target).EndsIn settings) store between ending output rest) :
    Completes ((Stmt.readNum target).EndsIn settings) store source ending
      (#[.prompt settings.prompt] ++ output) rest := by
  rintro console rfl
  obtain ⟨after, shows, reads, ended, fuel, reached⟩ := again
    (({ console with source := between }).refuse settings.prompt defect (Text.trim line)) rfl
  have asked : console.Shows
      (({ console with source := between }).refuse settings.prompt defect (Text.trim line))
      #[.prompt settings.prompt] := ⟨rfl, Array.push_eq_append⟩
  refine ⟨after, asked.trans shows, reads, ended, fuel, ?_⟩
  rw [Stmt.exec_readNum, taken]
  simp only [defective]
  exact reached

/-- Every rule is matched by execution without a limit. -/
theorem completes (unlimited : settings.maxIterations = none) {task : Task}
    (derived : BigStep settings.prompt task store source ending output rest) :
    Completes (task.EndsIn settings) store source ending output rest := by
  induction derived with
  | skip => exact completes_at_once fun _ => rfl
  | @assign target value store source n evaluated =>
    intro console start
    refine ⟨console.record (.assigned target n), .refl console, start,
      Outcome.done_ne_outOfFuel _ _, 0, ?_⟩
    rw [Stmt.exec, evaluated]
    rfl
  | assignFails evaluated | forFails evaluated | writeNumFails evaluated =>
    exact completes_at_once fun console => by rw [Stmt.exec, evaluated]; rfl
  | seq _ _ ran goesOn => exact completes_seq ran goesOn
  | seqFails _ failed => exact completes_seqFails failed
  | ifThenElseYes tested _ ran | ifThenElseNo tested _ ran | ifThenYes tested _ ran =>
    exact completes_of_eq (fun fuel console => by rw [Stmt.exec, tested]; rfl) ran
  | ifThenElseFails tested | ifThenNo tested | ifThenFails tested =>
    exact completes_at_once fun console => by rw [Stmt.exec, tested]; rfl
  | whileFails tested => exact LoopControl.completes_enterFails tested
  | whileStop tested => exact LoopControl.completes_stop tested
  | whileBodyFails tested _ failed =>
    exact LoopControl.completes_bodyFails unlimited tested failed
  | whileAgain tested _ _ ran again =>
    exact LoopControl.completes_again unlimited tested ran rfl again
  | repeatBodyFails _ failed => exact LoopControl.completes_bodyFails unlimited rfl failed
  | repeatFails _ tested ran =>
    exact LoopControl.completes_leaveFails unlimited rfl ran
      (LoopControl.leave_repeatUntil_error.mpr tested)
  | repeatStop _ tested ran =>
    exact LoopControl.completes_last unlimited rfl ran
      (LoopControl.leave_repeatUntil_ok.mpr ⟨rfl, tested⟩)
  | repeatAgain _ tested _ ran again =>
    exact LoopControl.completes_again unlimited rfl ran
      (LoopControl.leave_repeatUntil_ok.mpr ⟨rfl, tested⟩) again
  | doBodyFails _ failed => exact LoopControl.completes_bodyFails unlimited rfl failed
  | doFails _ tested ran =>
    exact LoopControl.completes_leaveFails unlimited rfl ran
      (LoopControl.leave_doWhile_error.mpr tested)
  | doStop _ tested ran =>
    exact LoopControl.completes_last unlimited rfl ran
      (LoopControl.leave_doWhile_ok.mpr ⟨rfl, tested⟩)
  | doAgain _ tested _ ran again =>
    exact LoopControl.completes_again unlimited rfl ran
      (LoopControl.leave_doWhile_ok.mpr ⟨rfl, tested⟩) again
  | forStart evaluated _ counts => exact completes_forStart evaluated counts
  | countFails counted evaluated =>
    exact LoopControl.completes_enterFails (LoopControl.enter_forTo_error.mpr
      (Or.inr ⟨_, Store.lookup_eq_ok_iff.mpr counted, evaluated⟩))
  | countStop counted evaluated above =>
    exact LoopControl.completes_stop (LoopControl.enter_forTo_ok.mpr
      ⟨_, _, Store.lookup_eq_ok_iff.mpr counted, evaluated, by simpa using above⟩)
  | countBodyFails counted evaluated within _ failed =>
    exact LoopControl.completes_bodyFails unlimited (LoopControl.enter_forTo_ok.mpr
      ⟨_, _, Store.lookup_eq_ok_iff.mpr counted, evaluated, decide_eq_true within⟩) failed
  | countOverflows counted evaluated within _ recounted increased ran =>
    refine LoopControl.completes_leaveFails unlimited (LoopControl.enter_forTo_ok.mpr
      ⟨_, _, Store.lookup_eq_ok_iff.mpr counted, evaluated, decide_eq_true within⟩) ran ?_
    exact LoopControl.leave_forTo_error.mpr
      (Or.inr ⟨_, Store.lookup_eq_ok_iff.mpr recounted, increased⟩)
  | countAgain counted evaluated within _ recounted increased _ ran again =>
    refine LoopControl.completes_again unlimited (LoopControl.enter_forTo_ok.mpr
      ⟨_, _, Store.lookup_eq_ok_iff.mpr counted, evaluated, decide_eq_true within⟩) ran ?_ again
    exact LoopControl.leave_forTo_ok.mpr
      ⟨_, _, Store.lookup_eq_ok_iff.mpr recounted, increased, rfl, rfl⟩
  | readClosed closed =>
    rintro console rfl
    refine ⟨console.starve, .refl console, rfl, Outcome.failed_ne_outOfFuel _ _, 0, ?_⟩
    rw [Stmt.exec_readNum, closed]
    rfl
  | @readAccept target store source line rest n taken number =>
    rintro console rfl
    refine ⟨({ console with source := rest }).record (.read target n), .refl console, rfl,
      Outcome.done_ne_outOfFuel _ _, 0, ?_⟩
    rw [Stmt.exec_readNum, taken]
    simp only [number]
    rfl
  | readRefuse taken defective _ again => exact completes_readRefuse taken defective again
  | @writeNum value store source n evaluated =>
    intro console start
    refine ⟨console.print (.written (Numeral.render n.toInt)), ⟨rfl, Array.push_eq_append⟩, start,
      Outcome.done_ne_outOfFuel _ _, 0, ?_⟩
    rw [Stmt.exec, evaluated]
    rfl
  | @writeStr text =>
    exact fun console start =>
      ⟨console.print (.written text), ⟨rfl, Array.push_eq_append⟩, start,
        Outcome.done_ne_outOfFuel _ _, 0, rfl⟩

end BigStep

/-! ## Both directions -/

namespace Stmt

variable {settings : Settings} {s : Stmt} {store : Store} {console : Console}
  {ending : Ending} {output : Array Line} {rest : Source}

theorem EndsIn.derives (unlimited : settings.maxIterations = none) {outcome : Outcome Fault}
    (ends : s.EndsIn settings store console outcome) :
    ∃ ending output after, outcome = ending.on after ∧ console.Shows after output ∧
      BigStep settings.prompt (.stmt s) store console.source ending output after.source := by
  obtain ⟨ended, fuel, rfl⟩ := ends
  have derived := exec_derived unlimited fuel s store console
  revert ended
  generalize s.exec settings fuel store console = outcome at derived
  intro ended
  cases derived with
  | done holds =>
    obtain ⟨output, shows, derived⟩ := holds
    exact ⟨.done _, output, _, rfl, shows, derived⟩
  | failed holds =>
    obtain ⟨output, shows, derived⟩ := holds
    exact ⟨.failed _, output, _, rfl, shows, derived⟩
  | outOfFuel => exact absurd rfl ended

/-- Without a limit, what can be seen of the end of a run is what the rules derive. -/
theorem shows_iff_bigStep (unlimited : settings.maxIterations = none) :
    (∃ after, console.Shows after output ∧ after.source = rest ∧
      s.EndsIn settings store console (ending.on after)) ↔
      BigStep settings.prompt (.stmt s) store console.source ending output rest := by
  constructor
  · intro seen
    obtain ⟨after, shows, rfl, ends⟩ := seen
    obtain ⟨ending', output', after', same, shows', derived⟩ := ends.derives unlimited
    obtain ⟨rfl, rfl⟩ := Ending.on_inj same
    have same : output = output' := Array.append_right_inj console.printed |>.mp
      (shows.2.symm.trans shows'.2)
    rw [same]
    exact derived
  · intro derived
    exact derived.completes unlimited console rfl

theorem diverges_iff_bigStep (unlimited : settings.maxIterations = none) :
    s.Diverges settings store console ↔ ∀ ending output rest,
      ¬ BigStep settings.prompt (.stmt s) store console.source ending output rest := by
  constructor
  · intro diverges ending output rest derived
    obtain ⟨after, _, _, ends⟩ := (shows_iff_bigStep unlimited).mpr derived
    exact not_diverges_iff.mpr ⟨_, ends⟩ diverges
  · intro underived
    refine Classical.byContradiction fun ended => ?_
    obtain ⟨outcome, ends⟩ := not_diverges_iff.mp ended
    obtain ⟨ending, output, after, _, _, derived⟩ := ends.derives unlimited
    exact underived ending output after.source derived

/-- Without a limit, a run ends in a store or a fault, with so much printed and so much of the input
left, if and only if the rules derive that; the events are not fixed by them. It diverges if and
only if the rules derive nothing. -/
theorem exec_iff_bigStep (prompt : String) (s : Stmt) (store : Store) (console : Console) :
    (∀ ending output rest,
      (∃ events, s.EndsIn { maxIterations := none, prompt := prompt } store console
        (ending.on { console with
          source := rest, printed := console.printed ++ output, events := events })) ↔
        BigStep prompt (.stmt s) store console.source ending output rest) ∧
    (s.Diverges { maxIterations := none, prompt := prompt } store console ↔
      ∀ ending output rest,
        ¬ BigStep prompt (.stmt s) store console.source ending output rest) := by
  have unlimited : Settings.maxIterations { maxIterations := none, prompt := prompt } = none := rfl
  refine ⟨fun ending output rest => ?_, diverges_iff_bigStep unlimited⟩
  refine Iff.trans ?_ (shows_iff_bigStep unlimited)
  constructor
  · intro ended
    obtain ⟨events, ends⟩ := ended
    refine ⟨{ console with
      source := rest, printed := console.printed ++ output, events := events }, ?_, ?_, ends⟩
    · exact ⟨rfl, rfl⟩
    · rfl
  · intro seen
    obtain ⟨⟨_, _, _, events⟩, ⟨rfl, rfl⟩, rfl, ends⟩ := seen
    exact ⟨events, ends⟩

end Stmt

end ImpLang
