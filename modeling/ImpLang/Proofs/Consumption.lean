import ImpLang.Proofs.Mirror

/-!
# What a statement sees of its input

A statement sees the lines it reads and nothing of those behind them. A run leaves an end of its
input; with other lines in the place of that end it is the same run and leaves these (`withoutRest`
and `withMore`). A run that fails for want of input has read all there is, and with more lines to
read it goes on from there. Both are mirrors: of an input in the same input with more lines after
it.
-/

namespace ImpLang

namespace Console

/-- The console with these lines as its input. -/
def supply (console : Console) (lines : List String) : Console :=
  { console with source := .script lines }

theorem supply_of_source {console : Console} {lines : List String}
    (given : console.source = .script lines) : console.supply lines = console := by
  obtain ⟨source, sink, printed, events⟩ := console
  cases given
  rfl

/-- The second console has the lines of the first, and more after them. -/
def Longer (more : List String) : Console → Console → Prop :=
  BySource fun source source' => ∃ lines, source = .script lines ∧ source' = .script (lines ++ more)

theorem Longer.supply (console : Console) (lines more : List String) :
    Longer more (console.supply lines) (console.supply (lines ++ more)) :=
  ⟨_, ⟨lines, rfl, rfl⟩, rfl⟩

/-- All lines are read and another is wanted, which the longer input has. -/
def RunsOut (more : List String) (fault : Fault) (console between : Console) : Prop :=
  (∃ target, fault = .inputClosed target) ∧ console.source = .script [] ∧
    between = console.supply more.tail

theorem longer_mirror (prompt : String) (more : List String) :
    Mirror prompt prompt (Longer more) (RunsOut more) := by
  refine .bySource prompt ?_
  rintro console _ ⟨lines, given, rfl⟩
  cases lines with
  | nil =>
    have closed : console.source.next? = none := by
      rw [given]
      rfl
    have unchanged : console.starve = console := starve_of_unfailing (by rw [given]; rfl)
    cases more with
    | nil =>
      refine .closed closed rfl ?_
      rw [unchanged, starve_of_unfailing rfl]
      exact ⟨_, ⟨[], given, rfl⟩, rfl⟩
    | cons text rest =>
      refine .more closed rfl fun target => ?_
      rw [unchanged]
      exact ⟨⟨target, rfl⟩, given, rfl⟩
  | cons text rest =>
    have taken : console.source.next? = some (text, .script rest) := by
      rw [given]
      rfl
    exact .line taken rfl ⟨_, ⟨rest, rfl, rfl⟩, rfl⟩

end Console

/-- Reading a script leaves an end of it. -/
theorem Source.Yields.script {lines read : List String} {source : Source}
    (yields : (Source.script lines).Yields read source) :
    ∃ rest, source = .script rest ∧ lines = read ++ rest := by
  generalize known : Source.script lines = start at yields
  induction yields generalizing lines with
  | nothing => exact ⟨lines, known.symm, rfl⟩
  | line taken _ ih =>
    subst known
    cases lines with
    | nil => cases taken
    | cons text others =>
      cases taken
      obtain ⟨rest, left, rfl⟩ := ih rfl
      exact ⟨rest, left, rfl⟩

namespace Stmt

variable {settings : Settings} {s : Stmt} {store : Store} {console after : Console}
  {lines consumed rest : List String} {ending : Ending}

/-- A run on a script leaves an end of it. -/
theorem EndsIn.leaves (ends : s.EndsIn settings store (console.supply lines) (ending.on after)) :
    ∃ consumed rest, lines = consumed ++ rest ∧ after.source = .script rest := by
  obtain ⟨_, _, ⟨consumed, yields⟩⟩ := EndsIn.precedes ending ends
  obtain ⟨rest, left, whole⟩ := yields.script
  exact ⟨consumed, rest, whole, left⟩

/-- A run that leaves some lines, and does not fail for want of more, does not need them. -/
theorem EndsIn.withoutRest
    (ends : s.EndsIn settings store (console.supply (consumed ++ rest)) (ending.on after))
    (left : after.source = .script rest)
    (supplied : ∀ target, ending ≠ .failed (.inputClosed target)) :
    s.EndsIn settings store (console.supply consumed) (ending.on (after.supply [])) := by
  obtain ⟨ended, fuel, reached⟩ := ends
  have mirrors := exec_mirrors (Console.longer_mirror settings.prompt rest) settings.maxIterations
    fuel s store (.supply console consumed rest)
  rw [reached] at mirrors
  rcases mirrors.of_second with
    ⟨before, same, _, ⟨shorter, given, rfl⟩, rfl⟩ |
    ⟨_, before, _, same, ⟨⟨target, rfl⟩, _, rfl⟩, precedes⟩
  · have none : shorter = [] := by
      have both : shorter ++ rest = rest := Source.script.inj left
      simpa using both
    subst none
    refine ⟨ending.on_ne_outOfFuel _, fuel, ?_⟩
    rw [same]
    exact congrArg ending.on (Console.supply_of_source given).symm
  · -- The longer run has read a line of the rest and left all of it, so there is none.
    obtain ⟨_, _, ⟨read, yields⟩⟩ := precedes
    obtain ⟨unread, found, whole⟩ := yields.script
    rw [left, Source.script.injEq] at found
    subst found
    have none : rest = [] := by
      have lengths := congrArg List.length whole
      simp only [List.length_tail, List.length_append] at lengths
      exact List.length_eq_zero_iff.mp (by omega)
    subst none
    rw [List.append_nil] at reached
    have closed : ending.on after = (Ending.failed (.inputClosed target)).on before :=
      reached.symm.trans same
    exact absurd (Ending.on_inj closed).1 (supplied target)

/-- A run that does not fail for want of input is the same with more lines, and leaves these. -/
theorem EndsIn.withMore (ends : s.EndsIn settings store (console.supply lines) (ending.on after))
    (left : after.source = .script rest)
    (supplied : ∀ target, ending ≠ .failed (.inputClosed target)) (more : List String) :
    s.EndsIn settings store (console.supply (lines ++ more))
      (ending.on (after.supply (rest ++ more))) := by
  obtain ⟨ended, fuel, reached⟩ := ends
  have mirrors := exec_mirrors (Console.longer_mirror settings.prompt more) settings.maxIterations
    fuel s store (.supply console lines more)
  rw [reached] at mirrors
  rcases mirrors.of_first with
    ⟨_, same, _, ⟨shorter, given, rfl⟩, rfl⟩ | ⟨_, _, closed, ⟨⟨target, rfl⟩, _, _⟩, _⟩
  · rw [left, Source.script.injEq] at given
    subst given
    exact ⟨ending.on_ne_outOfFuel _, fuel, same⟩
  · exact absurd closed (supplied target)

/-- A run that fails for want of input has read all of it. -/
theorem EndsIn.closed {target : Name}
    (ends : s.EndsIn settings store console (.failed (.inputClosed target) after)) :
    after.source.next? = none := by
  obtain ⟨_, fuel, reached⟩ := ends
  have justified := exec_justified settings fuel s store console
  rw [reached] at justified
  cases justified with
  | failed closed => exact closed

/-- With more lines such a run goes on from where it stopped. -/
theorem EndsIn.goesOn {target : Name} {more : List String} {full : Console}
    (closed : s.EndsIn settings store (console.supply lines)
      (.failed (.inputClosed target) after))
    (drained : after.source = .script [])
    (ends : s.EndsIn settings store (console.supply (lines ++ more)) (ending.on full)) :
    ∃ begun, begun <:+ more ∧ (after.supply begun).Precedes full := by
  obtain ⟨fuel, stays⟩ := closed.stays
  obtain ⟨fuel', stays'⟩ := ends.stays
  have mirrors := exec_mirrors (Console.longer_mirror settings.prompt more) settings.maxIterations
    (max fuel fuel') s store (.supply console lines more)
  rw [stays _ (Nat.le_max_left fuel fuel'), stays' _ (Nat.le_max_right fuel fuel')] at mirrors
  rcases mirrors.of_second with
    ⟨before, same, _, ⟨shorter, given, rfl⟩, rfl⟩ | ⟨_, before, _, same, ⟨_, _, rfl⟩, precedes⟩
  · have both : (Ending.failed (.inputClosed target)).on after = ending.on before := same
    obtain ⟨_, rfl⟩ := Ending.on_inj both
    rw [drained, Source.script.injEq] at given
    subst given
    exact ⟨more, List.suffix_refl more, .refl _⟩
  · cases same
    exact ⟨more.tail, List.tail_suffix more, precedes⟩

/-- A run sees of its input only what it reads. It leaves an end of its input, and if it does not
fail for want of input, then with any other lines in place of that end it is the same run, with the
same output and events, and leaves these. If it fails for want of input, nothing is left; and with
more lines, if it ends, it has printed all that was printed and more, and has read all lines that
were there and none or some of the others. -/
theorem exec_consumed_input (settings : Settings) (s : Stmt) (store : Store) (console : Console)
    (lines : List String) (ending : Ending) (after : Console)
    (ends : s.EndsIn settings store (console.supply lines) (ending.on after)) :
    ∃ consumed rest, lines = consumed ++ rest ∧ after.source = .script rest ∧
      ((∀ target, ending ≠ .failed (.inputClosed target)) →
        ∀ rest', s.EndsIn settings store (console.supply (consumed ++ rest'))
          (ending.on (after.supply rest'))) ∧
      ∀ target, ending = .failed (.inputClosed target) →
        rest = [] ∧ ∀ (more : List String) (ending' : Ending) (full : Console),
          s.EndsIn settings store (console.supply (lines ++ more)) (ending'.on full) →
          (∃ shown, full.printed = after.printed ++ shown) ∧
          ∃ unread, full.source = .script unread ∧ unread <:+ more := by
  obtain ⟨consumed, rest, rfl, left⟩ := ends.leaves
  refine ⟨consumed, rest, rfl, left, ?_, ?_⟩
  · intro supplied rest'
    exact (ends.withoutRest left supplied).withMore rfl supplied rest'
  · rintro target rfl
    have none : rest = [] := by
      have closed := EndsIn.closed ends
      rw [left] at closed
      cases rest with
      | nil => rfl
      | cons line others => cases closed
    subst none
    refine ⟨rfl, fun more ending' full endsThen => ?_⟩
    obtain ⟨begun, suffix, _, printed, ⟨read, yields⟩⟩ := EndsIn.goesOn ends left endsThen
    obtain ⟨unread, found, whole⟩ := yields.script
    refine ⟨printed, unread, found, ?_⟩
    exact List.IsSuffix.trans ⟨read, whole.symm⟩ suffix

/-- A loop that reads and writes until it meets a zero, past a line that is no number. What comes
after the zero does not matter; without one the loop runs out of input. -/
theorem exec_consumed_input_until_zero : ∃ (s : Stmt) (start : Console),
    s = .repeatUntil (.seq (.readNum ⟨"n"⟩) (.writeNum (.named "n"))) (.eq (.named "n") (.int 0)) ∧
    start = { source := .script [], sink := .buffer } ∧
    (∃ after, after.printed = #[.written "2", .prompt defaultPrompt, .written "0"] ∧
      s.EndsIn {} .empty (start.supply ["2", "x", "0", "7"])
        (.done (.ofEntries [(⟨"n"⟩, 0)]) after) ∧
      ∀ rest', s.EndsIn {} .empty (start.supply (["2", "x", "0"] ++ rest'))
        (.done (.ofEntries [(⟨"n"⟩, 0)]) (after.supply rest'))) ∧
    ∃ after, s.EndsIn {} .empty (start.supply ["2"]) (.failed (.inputClosed ⟨"n"⟩) after) ∧
      ∀ (ending : Ending) (full : Console),
        s.EndsIn {} .empty (start.supply (["2"] ++ ["0", "7"])) (ending.on full) →
        (∃ shown, full.printed = #[.written "2"] ++ shown) ∧
        ∃ unread, full.source = .script unread ∧ unread <:+ ["0", "7"] := by
  obtain ⟨s, known⟩ : ∃ s : Stmt, s = .repeatUntil
      (.seq (.readNum ⟨"n"⟩) (.writeNum (.named "n"))) (.eq (.named "n") (.int 0)) := ⟨_, rfl⟩
  obtain ⟨start, given⟩ : ∃ start : Console,
      start = { source := .script [], sink := .buffer } := ⟨_, rfl⟩
  have ends : s.EndsIn {} .empty (start.supply ["2", "x", "0", "7"])
      ((Ending.done (.ofEntries [(⟨"n"⟩, 0)])).on
        { source := .script ["7"], sink := .buffer,
          printed := #[.written "2", .prompt defaultPrompt, .written "0"],
          events := #[.read ⟨"n"⟩ 2, .malformed .invalidDigit "x", .read ⟨"n"⟩ 0,
            .loopFinished .repeatUntil 2] }) := by
    refine ⟨nofun, 3, ?_⟩
    rw [known, given]
    decide +kernel
  have closed : s.EndsIn {} .empty (start.supply ["2"])
      ((Ending.failed (.inputClosed ⟨"n"⟩)).on
        { source := .script [], sink := .buffer, printed := #[.written "2"],
          events := #[.read ⟨"n"⟩ 2] }) := by
    refine ⟨nofun, 3, ?_⟩
    rw [known, given]
    decide +kernel
  obtain ⟨consumed, rest, whole, left, same, _⟩ := exec_consumed_input {} s _ _ _ _ _ ends
  obtain ⟨_, _, _, _, _, goesOn⟩ := exec_consumed_input {} s _ _ _ _ _ closed
  cases left
  have read : consumed = ["2", "x", "0"] :=
    (List.append_cancel_right (whole : ["2", "x", "0"] ++ ["7"] = consumed ++ ["7"])).symm
  subst read
  refine ⟨s, start, known, given, ⟨_, rfl, ends, same nofun⟩, _, closed, ?_⟩
  exact fun ending full endsThen => (goesOn ⟨"n"⟩ rfl).2 ["0", "7"] ending full endsThen

end Stmt

end ImpLang
