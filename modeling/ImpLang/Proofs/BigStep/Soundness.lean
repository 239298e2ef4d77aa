import ImpLang.Proofs.BigStep
import ImpLang.Proofs.Effects

/-!
# What execution ends in can be derived

`exec_derived` goes by the forms of statement. Loops of all kinds are derived by `iterate_derived`,
from the rules that their control has; the counting loop needs besides that its counter stays bound.
-/

namespace ImpLang

/-- Later consoles on which so much more is printed, to the same sink. -/
def Console.Shows (console after : Console) (output : Array Line) : Prop :=
  after.sink = console.sink ∧ after.printed = console.printed ++ output

/-- An outcome whose ending, output and rest of the input are as judged. -/
def Outcome.Derived (judge : Ending → Array Line → Source → Prop) (console : Console) :
    Outcome Fault → Prop :=
  All
    (fun store after => ∃ output, console.Shows after output ∧
      judge (.done store) output after.source)
    (fun fault after => ∃ output, console.Shows after output ∧
      judge (.failed fault) output after.source)

theorem Console.Shows.refl (console : Console) : console.Shows console #[] :=
  ⟨rfl, by simp⟩

theorem Console.Shows.trans {console between after : Console} {shown output : Array Line}
    (first : console.Shows between shown) (second : between.Shows after output) :
    console.Shows after (shown ++ output) := by
  refine ⟨second.1.trans first.1, ?_⟩
  rw [second.2, first.2, Array.append_assoc]

/-- What comes later is derived after what came first. -/
theorem Outcome.Derived.after {judge judge' : Ending → Array Line → Source → Prop}
    {console between : Console} {shown : Array Line} {outcome : Outcome Fault}
    (derived : outcome.Derived judge between) (first : console.Shows between shown)
    (longer : ∀ ending output rest, judge ending output rest →
      judge' ending (shown ++ output) rest) :
    outcome.Derived judge' console := by
  refine derived.mono ?_ ?_
  · intro store after reached
    obtain ⟨output, shows, judged⟩ := reached
    exact ⟨shown ++ output, first.trans shows, longer _ _ _ judged⟩
  · intro fault after reached
    obtain ⟨output, shows, judged⟩ := reached
    exact ⟨shown ++ output, first.trans shows, longer _ _ _ judged⟩

theorem Outcome.Derived.imp {judge judge' : Ending → Array Line → Source → Prop}
    {console : Console} {outcome : Outcome Fault} (derived : outcome.Derived judge console)
    (weaker : ∀ ending output rest, judge ending output rest → judge' ending output rest) :
    outcome.Derived judge' console := by
  refine derived.after (.refl console) fun ending output rest judged => ?_
  simpa using weaker ending output rest judged

/-- A loop without a limit is derived by any judgement that has the rules of its control. The
invariant is that whatever is judged from here on is judged from the start, after what was
printed. -/
theorem LoopControl.iterate_derived {control : LoopControl}
    {body : Store → Console → Outcome Fault}
    (bodyJudge judge : Store → Source → Ending → Array Line → Source → Prop)
    (bodyDerived : ∀ store console, (body store console).Derived (bodyJudge store console.source)
      console)
    (enterFails : ∀ {store source fault}, control.enter store = .error fault →
      judge store source (.failed fault) #[] source)
    (stops : ∀ {store source}, control.enter store = .ok false →
      judge store source (.done store) #[] source)
    (bodyFails : ∀ {store source fault output rest}, control.enter store = .ok true →
      bodyJudge store source (.failed fault) output rest →
      judge store source (.failed fault) output rest)
    (leaveFails : ∀ {store source after output rest fault}, control.enter store = .ok true →
      bodyJudge store source (.done after) output rest → control.leave after = .error fault →
      judge store source (.failed fault) output rest)
    (ends : ∀ {store source after output rest next}, control.enter store = .ok true →
      bodyJudge store source (.done after) output rest → control.leave after = .ok (next, false) →
      judge store source (.done next) output rest)
    (again : ∀ {store source after shown between next ending output rest},
      control.enter store = .ok true → bodyJudge store source (.done after) shown between →
      control.leave after = .ok (next, true) → judge next between ending output rest →
      judge store source ending (shown ++ output) rest)
    (fuel : Nat) (rounds : UInt64) (store : Store) (console : Console) :
    (control.iterate none body fuel rounds store console).Derived (judge store console.source)
      console := by
  refine iterate_all (fun current between => ∃ shown, console.Shows between shown ∧
      ∀ ending output rest, judge current between.source ending output rest →
        judge store console.source ending (shown ++ output) rest)
    ?enterFails ?stops ?countFails ?goesOn fuel rounds
    ⟨#[], .refl console, fun ending output rest judged => by simpa using judged⟩
  case enterFails =>
    intro current between fault reached failed
    obtain ⟨shown, shows, sofar⟩ := reached
    exact ⟨shown, shows, by simpa using sofar _ _ _ (enterFails failed)⟩
  case stops =>
    intro current between rounds reached stopped
    obtain ⟨shown, shows, sofar⟩ := reached
    exact ⟨shown, shows, by simpa [Console.record] using sofar _ _ _ (stops stopped)⟩
  case countFails =>
    intro current between rounds fault _ _ failed
    cases failed
  case goesOn =>
    intro current between reached entered
    obtain ⟨shown, shows, sofar⟩ := reached
    refine (bodyDerived current between).mono ?_ ?_
    · intro after later reached
      obtain ⟨more, showsMore, judged⟩ := reached
      refine ⟨fun fault failed => ?_, fun next left => ?_, fun next rounds left => ?_⟩
      · exact ⟨shown ++ more, shows.trans showsMore, sofar _ _ _ (leaveFails entered judged failed)⟩
      · refine ⟨shown ++ more, shows.trans showsMore, fun ending output rest goesOn => ?_⟩
        rw [Array.append_assoc]
        exact sofar _ _ _ (again entered judged left goesOn)
      · exact ⟨shown ++ more, shows.trans showsMore, sofar _ _ _ (ends entered judged left)⟩
    · intro fault later reached
      obtain ⟨more, showsMore, judged⟩ := reached
      exact ⟨shown ++ more, shows.trans showsMore, sofar _ _ _ (bodyFails entered judged)⟩

/-- The counter is bound when a counting loop starts and nothing unbinds it, so that reading it
never fails and there need be no rule for that. -/
theorem count_derived (prompt : String) (counter : Name) (high : Expr) (body : Stmt)
    {run : Store → Console → Outcome Fault}
    (bodyDerived : ∀ store console,
      (run store console).Derived (BigStep prompt (.stmt body) store console.source) console ∧
      (run store console).All (fun after _ => counter ∈ store.names → counter ∈ after.names)
        (fun _ _ => True))
    (fuel : Nat) (rounds : UInt64) (store : Store) (console : Console) :
    ((LoopControl.forTo counter high).iterate none run fuel rounds store console).Derived
      (fun ending output rest => counter ∈ store.names →
        BigStep prompt (.count counter high body) store console.source ending output rest)
      console := by
  have present {store : Store} {fault : Fault} (member : counter ∈ store.names) :
      store.lookup counter ≠ .error fault :=
    fun failed => (Store.lookup_eq_error_iff.mp failed).1 member
  refine LoopControl.iterate_derived
    (fun store source ending output rest =>
      BigStep prompt (.stmt body) store source ending output rest ∧
        ∀ after, ending = .done after → counter ∈ store.names → counter ∈ after.names)
    (fun store source ending output rest => counter ∈ store.names →
      BigStep prompt (.count counter high body) store source ending output rest)
    ?bodyDerived ?enterFails ?stops ?bodyFails ?leaveFails ?ends ?again fuel rounds store console
  case bodyDerived =>
    intro store console
    refine ((bodyDerived store console).1.and (bodyDerived store console).2).mono ?_ ?_
    · intro after later reached
      obtain ⟨⟨output, shows, derived⟩, keeps⟩ := reached
      exact ⟨output, shows, derived, fun _ same => by cases same; exact keeps⟩
    · intro fault later reached
      obtain ⟨⟨output, shows, derived⟩, _⟩ := reached
      exact ⟨output, shows, derived, nofun⟩
  case enterFails =>
    intro store source fault failed member
    rcases LoopControl.enter_forTo_error.mp failed with lost | ⟨current, counted, evaluated⟩
    · exact absurd lost (present member)
    · exact .countFails (Store.lookup_eq_ok_iff.mp counted) evaluated
  case stops =>
    intro store source stopped member
    obtain ⟨current, bound, counted, evaluated, above⟩ := LoopControl.enter_forTo_ok.mp stopped
    exact .countStop (Store.lookup_eq_ok_iff.mp counted) evaluated (by simpa using above)
  case bodyFails =>
    intro store source fault output rest entered failed member
    obtain ⟨current, bound, counted, evaluated, within⟩ := LoopControl.enter_forTo_ok.mp entered
    exact .countBodyFails (Store.lookup_eq_ok_iff.mp counted) evaluated (by simpa using within)
      failed.1
  case leaveFails =>
    intro store source after output rest fault entered ran failed member
    obtain ⟨current, bound, counted, evaluated, within⟩ := LoopControl.enter_forTo_ok.mp entered
    rcases LoopControl.leave_forTo_error.mp failed with lost | ⟨last, recounted, increased⟩
    · exact absurd lost (present (ran.2 after rfl member))
    · exact .countOverflows (Store.lookup_eq_ok_iff.mp counted) evaluated (by simpa using within)
        ran.1 (Store.lookup_eq_ok_iff.mp recounted) increased
  case ends =>
    intro store source after output rest next _ _ left
    obtain ⟨_, _, _, _, _, impossible⟩ := LoopControl.leave_forTo_ok.mp left
    cases impossible
  case again =>
    intro store source after shown between next ending output rest entered ran left later member
    obtain ⟨current, bound, counted, evaluated, within⟩ := LoopControl.enter_forTo_ok.mp entered
    obtain ⟨last, increased, recounted, added, rfl, _⟩ := LoopControl.leave_forTo_ok.mp left
    exact .countAgain (Store.lookup_eq_ok_iff.mp counted) evaluated (by simpa using within) ran.1
      (Store.lookup_eq_ok_iff.mp recounted) added
      (later (Store.mem_names_bind.mpr (Or.inl rfl)))

namespace Stmt

theorem readNum_derived (settings : Settings) (fuel : Nat) (target : Name) (store : Store)
    (console : Console) :
    ((Stmt.readNum target).exec settings fuel store console).Derived
      (BigStep settings.prompt (.stmt (.readNum target)) store console.source) console := by
  induction bound : console.source.size using Nat.strongRecOn generalizing console with
  | ind size ih =>
    rw [exec_readNum]
    cases taken : console.source.next? with
    | none => exact .failed ⟨#[], .refl console, .readClosed taken⟩
    | some found =>
      obtain ⟨line, rest⟩ := found
      cases number : Numeral.signed (Text.trim line) with
      | ok n =>
        simp only [number]
        exact .done ⟨#[], .refl _, .readAccept taken number⟩
      | error defect =>
        simp only [number]
        have smaller : rest.size < size := bound ▸ Source.size_of_next? taken
        have asked : console.Shows
            (({ console with source := rest }).refuse settings.prompt defect (Text.trim line))
            #[.prompt settings.prompt] := ⟨rfl, Array.push_eq_append⟩
        exact (ih rest.size smaller _ rfl).after asked fun _ _ _ later =>
          .readRefuse taken number later

/-- Execution without a limit ends in nothing but what the rules derive. -/
theorem exec_derived {settings : Settings} (unlimited : settings.maxIterations = none) (fuel : Nat)
    (s : Stmt) (store : Store) (console : Console) :
    (s.exec settings fuel store console).Derived
      (BigStep settings.prompt (.stmt s) store console.source) console := by
  induction s generalizing store console with
  | skip => exact .done ⟨#[], .refl console, .skip⟩
  | assign target value =>
    refine .attempt (fun fault failed => ⟨#[], .refl console, .assignFails failed⟩)
      fun n found => ?_
    exact .done ⟨#[], .refl console, .assign found⟩
  | seq first second firstDerived secondDerived =>
    refine .andThen (.mono (firstDerived store console) (fun _ _ => id) ?_) ?_
    · intro fault after reached
      obtain ⟨output, shows, derived⟩ := reached
      exact ⟨output, shows, .seqFails derived⟩
    · intro middle between reached
      obtain ⟨shown, shows, derived⟩ := reached
      exact (secondDerived middle between).after shows fun _ _ _ later => .seq derived later
  | ifThenElse cond yes no yesDerived noDerived =>
    refine .attempt (fun fault failed => ⟨#[], .refl console, .ifThenElseFails failed⟩)
      fun holds tested => ?_
    cases holds with
    | false => exact (noDerived store console).imp fun _ _ _ => .ifThenElseNo tested
    | true => exact (yesDerived store console).imp fun _ _ _ => .ifThenElseYes tested
  | ifThen cond body bodyDerived =>
    refine .attempt (fun fault failed => ⟨#[], .refl console, .ifThenFails failed⟩)
      fun holds tested => ?_
    cases holds with
    | false => exact .done ⟨#[], .refl console, .ifThenNo tested⟩
    | true => exact (bodyDerived store console).imp fun _ _ _ => .ifThenYes tested
  | whileDo cond body bodyDerived =>
    rw [exec, unlimited]
    refine LoopControl.iterate_derived _
      (fun store source => BigStep settings.prompt (.stmt (.whileDo cond body)) store source)
      bodyDerived ?enterFails ?stops ?bodyFails ?leaveFails ?ends ?again fuel 0 store console
    case enterFails => exact .whileFails
    case stops => exact .whileStop
    case bodyFails => exact .whileBodyFails
    case leaveFails =>
      intro store source after output rest fault _ _ failed
      cases failed
    case ends =>
      intro store source after output rest next _ _ left
      cases left
    case again =>
      intro store source after shown between next ending output rest tested ran left later
      cases left
      exact .whileAgain tested ran later
  | repeatUntil body cond bodyDerived =>
    rw [exec, unlimited]
    refine LoopControl.iterate_derived _
      (fun store source => BigStep settings.prompt (.stmt (.repeatUntil body cond)) store source)
      bodyDerived ?enterFails ?stops ?bodyFails ?leaveFails ?ends ?again fuel 0 store console
    case enterFails =>
      intro store source fault failed
      cases failed
    case stops =>
      intro store source stopped
      cases stopped
    case bodyFails => exact fun _ failed => .repeatBodyFails failed
    case leaveFails =>
      intro store source after output rest fault _ ran failed
      exact .repeatFails ran (LoopControl.leave_repeatUntil_error.mp failed)
    case ends =>
      intro store source after output rest next _ ran left
      obtain ⟨rfl, tested⟩ := LoopControl.leave_repeatUntil_ok.mp left
      exact .repeatStop ran tested
    case again =>
      intro store source after shown between next ending output rest _ ran left later
      obtain ⟨rfl, tested⟩ := LoopControl.leave_repeatUntil_ok.mp left
      exact .repeatAgain ran tested later
  | doWhile body cond bodyDerived =>
    rw [exec, unlimited]
    refine LoopControl.iterate_derived _
      (fun store source => BigStep settings.prompt (.stmt (.doWhile body cond)) store source)
      bodyDerived ?enterFails ?stops ?bodyFails ?leaveFails ?ends ?again fuel 0 store console
    case enterFails =>
      intro store source fault failed
      cases failed
    case stops =>
      intro store source stopped
      cases stopped
    case bodyFails => exact fun _ failed => .doBodyFails failed
    case leaveFails =>
      intro store source after output rest fault _ ran failed
      exact .doFails ran (LoopControl.leave_doWhile_error.mp failed)
    case ends =>
      intro store source after output rest next _ ran left
      obtain ⟨rfl, tested⟩ := LoopControl.leave_doWhile_ok.mp left
      exact .doStop ran tested
    case again =>
      intro store source after shown between next ending output rest _ ran left later
      obtain ⟨rfl, tested⟩ := LoopControl.leave_doWhile_ok.mp left
      exact .doAgain ran tested later
  | forTo counter low high body bodyDerived =>
    refine .attempt (fun fault failed => ⟨#[], .refl console, .forFails failed⟩)
      fun start found => ?_
    rw [unlimited]
    refine (count_derived settings.prompt counter high body ?_ fuel 0 (store.bind counter start)
      console).imp fun ending output rest derived => .forStart found (derived ?_)
    · intro store console
      exact ⟨bodyDerived store console, exec_bound settings fuel body store console counter⟩
    · exact Store.mem_names_bind.mpr (Or.inl rfl)
  | readNum target => exact readNum_derived settings fuel target store console
  | writeNum value =>
    refine .attempt (fun fault failed => ⟨#[], .refl console, .writeNumFails failed⟩)
      fun n found => ?_
    exact .done ⟨_, ⟨rfl, Array.push_eq_append⟩, .writeNum found⟩
  | writeStr text => exact .done ⟨_, ⟨rfl, Array.push_eq_append⟩, .writeStr⟩

end Stmt

end ImpLang
