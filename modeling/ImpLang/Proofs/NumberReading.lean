import ImpLang.Proofs.Consumption
import ImpLang.Proofs.NumeralForm

/-!
# Reading takes the first number

A line holds a number if it is the numeral of one, with nothing but white space around it
(`Numeral.OnLine`). Reading uses up the lines before the first one that holds a number, with one
prompt for each, and then that line (`Numeral.FirstFrom`), wherever the lines come from; where there
is no such line it uses up all and fails.
-/

namespace ImpLang

namespace Text

/-- Nothing but white space. -/
def AllBlank (chars : List Char) : Prop :=
  ∀ c ∈ chars, isBlank c = true

instance (chars : List Char) : Decidable (AllBlank chars) :=
  List.decidableBAll _ chars

theorem allBlank_takeWhile (chars : List Char) : AllBlank (chars.takeWhile isBlank) :=
  fun _ member => List.all_eq_true.mp List.all_takeWhile _ member

/-- What trimming takes away at the ends is white space. -/
theorem exists_trim (text : String) :
    ∃ left right, text.toList = left ++ (trim text).toList ++ right ∧ AllBlank left ∧
      AllBlank right := by
  have first := @List.takeWhile_append_dropWhile _ isBlank text.toList
  have last := @List.takeWhile_append_dropWhile _ isBlank (text.toList.dropWhile isBlank).reverse
  refine ⟨text.toList.takeWhile isBlank,
    ((text.toList.dropWhile isBlank).reverse.takeWhile isBlank).reverse, ?_,
    allBlank_takeWhile _, fun c member => allBlank_takeWhile _ c (List.mem_reverse.mp member)⟩
  rw [trim, trimChars, String.toList_ofList, List.append_assoc, ← List.reverse_append, last,
    List.reverse_reverse, first]

theorem dropWhile_solid {chars : List Char} (rest : List Char) (nonempty : chars ≠ [])
    (solid : ∀ c ∈ chars, isBlank c = false) :
    (chars ++ rest).dropWhile isBlank = chars ++ rest := by
  cases chars with
  | nil => exact absurd rfl nonempty
  | cons c chars => simp [solid c (by simp)]

/-- White space around characters that are none is taken away. -/
theorem trim_eq {text : String} {left core right : List Char}
    (whole : text.toList = left ++ core ++ right) (before : AllBlank left) (after : AllBlank right)
    (nonempty : core ≠ []) (solid : ∀ c ∈ core, isBlank c = false) :
    trim text = String.ofList core := by
  have forward := dropWhile_solid right nonempty solid
  have backward := dropWhile_solid [] (List.reverse_ne_nil_iff.mpr nonempty)
    fun c member => solid c (List.mem_reverse.mp member)
  have behind : ∀ c ∈ right.reverse, isBlank c = true :=
    fun c member => after c (List.mem_reverse.mp member)
  rw [List.append_nil] at backward
  rw [trim, trimChars, whole, List.append_assoc, List.dropWhile_append_of_pos before, forward,
    List.reverse_append, List.dropWhile_append_of_pos behind, backward, List.reverse_reverse]

theorem not_isBlank_of_isDigit {c : Char} (digit : c.isDigit = true) : isBlank c = false := by
  have low : 48 ≤ c.toNat := (Char.isDigit_iff_toNat.mp digit).1
  have high : c.toNat ≤ 57 := (Char.isDigit_iff_toNat.mp digit).2
  rw [Bool.eq_false_iff, isBlank]
  intro covered
  obtain ⟨range, member, start, stop⟩ := (blankRanges.covers_iff _).mp covered
  have apart : ∀ range ∈ blankRanges.bounds, range.2 < 48 ∨ 57 < range.1 := by decide
  have := apart range member
  omega

end Text

/-- A script yields its lines in order. -/
theorem Source.Yields.ofScript (lines rest : List String) :
    (Source.script (lines ++ rest)).Yields lines (.script rest) := by
  induction lines with
  | nil => exact .nothing _
  | cons line lines ih => exact .line rfl ih

namespace Numeral

open Text

variable {line : String} {n : Int64} {chars : List Char} {z : Int}

theorem Denotes.ne_nil (denotes : Denotes chars z) : chars ≠ [] := by
  cases denotes with
  | plain areDigits => exact areDigits.1
  | plus => exact List.cons_ne_nil _ _
  | minus => exact List.cons_ne_nil _ _

theorem Denotes.not_isBlank (denotes : Denotes chars z) : ∀ c ∈ chars, isBlank c = false := by
  cases denotes with
  | plain areDigits => exact fun c member => not_isBlank_of_isDigit (areDigits.2 c member)
  | plus areDigits | minus areDigits =>
    intro c member
    rcases List.mem_cons.mp member with rfl | later
    · decide
    · exact not_isBlank_of_isDigit (areDigits.2 c later)

/-- The line is a numeral of the number, white space at its ends apart. -/
def OnLine (line : String) (n : Int64) : Prop :=
  ∃ left core right, line.toList = left ++ core ++ right ∧ AllBlank left ∧ AllBlank right ∧
    Denotes core n.toInt

/-- A line is read as a number exactly if it holds it. -/
theorem signed_trim_eq_ok_iff : signed (trim line) = .ok n ↔ OnLine line n := by
  rw [signed_eq_ok_iff]
  constructor
  · intro denotes
    obtain ⟨left, right, whole, before, after⟩ := exists_trim line
    exact ⟨left, _, right, whole, before, after, denotes⟩
  · rintro ⟨left, core, right, whole, before, after, denotes⟩
    rwa [trim_eq whole before after denotes.ne_nil denotes.not_isBlank, String.toList_ofList]

theorem exists_defect (none : ∀ n, ¬ OnLine line n) :
    ∃ defect, signed (trim line) = .error defect := by
  cases read : signed (trim line) with
  | ok n => exact absurd (signed_trim_eq_ok_iff.mp read) (none n)
  | error defect => exact ⟨defect, rfl⟩

theorem not_onLine_of_error {defect : Defect} (malformed : signed (trim line) = .error defect)
    (m : Int64) : ¬ OnLine line m := by
  intro held
  rw [signed_trim_eq_ok_iff.mpr held] at malformed
  cases malformed

/-- The first of the lines that holds a number, with those before it and those after it. -/
def FirstOf (lines refused : List String) (n : Int64) (rest : List String) : Prop :=
  ∃ line, lines = refused ++ line :: rest ∧ OnLine line n ∧
    ∀ earlier ∈ refused, ∀ m, ¬ OnLine earlier m

/-- The source yields lines without a number, and then one that holds this number. -/
def FirstFrom (source : Source) (refused : List String) (n : Int64) (rest : Source) : Prop :=
  ∃ line middle, source.Yields refused middle ∧ middle.next? = some (line, rest) ∧
    OnLine line n ∧ ∀ earlier ∈ refused, ∀ m, ¬ OnLine earlier m

theorem FirstOf.firstFrom {lines refused rest : List String}
    (first : FirstOf lines refused n rest) :
    FirstFrom (.script lines) refused n (.script rest) := by
  obtain ⟨line, rfl, held, none⟩ := first
  exact ⟨line, _, .ofScript refused (line :: rest), rfl, held, none⟩

theorem exists_firstOf {lines : List String} (some : ∃ line ∈ lines, ∃ n, OnLine line n) :
    ∃ refused n rest, FirstOf lines refused n rest := by
  induction lines with
  | nil => simp at some
  | cons line lines ih =>
    by_cases here : ∃ n, OnLine line n
    · obtain ⟨n, held⟩ := here
      exact ⟨[], n, lines, line, rfl, held, by simp⟩
    · have later : ∃ line ∈ lines, ∃ n, OnLine line n := by simpa [here] using some
      obtain ⟨refused, n, rest, found, rfl, held, none⟩ := ih later
      refine ⟨line :: refused, n, rest, found, rfl, held, ?_⟩
      exact List.forall_mem_cons.mpr ⟨not_exists.mp here, none⟩

end Numeral

/-! ## The run of a read -/

theorem Console.supply_eq_advance (console : Console) (lines : List String) :
    console.supply lines = console.advance (.script lines) [] [] := by
  simp [supply, advance]

namespace Stmt

open Numeral

section

variable (settings : Settings) (fuel : Nat) (target : Name) (store : Store) (console : Console)
  {line : String} {lines refused : List String} {n : Int64}

/-- A line that holds a number is the last that is read. -/
theorem exec_readNum_onLine {source rest : Source} (taken : source.next? = some (line, rest))
    (held : OnLine line n) (printed : List Line) (events : List Event) :
    (Stmt.readNum target).exec settings fuel store (console.advance source printed events) =
      .done (store.bind target n)
        (console.advance rest printed (events ++ [.read target n])) := by
  rw [exec_readNum]
  simp only [Console.advance, taken, signed_trim_eq_ok_iff.mpr held]
  simp [Console.record]

/-- Any other line is answered with a prompt, and the read goes on behind it. -/
theorem exec_readNum_refuse {source rest : Source} (taken : source.next? = some (line, rest))
    (none : ∀ n, ¬ OnLine line n) (printed : List Line) (events : List Event) :
    ∃ more, (Stmt.readNum target).exec settings fuel store
        (console.advance source printed events) =
      (Stmt.readNum target).exec settings fuel store
        (console.advance rest (printed ++ [.prompt settings.prompt]) (events ++ more)) := by
  obtain ⟨defect, malformed⟩ := exists_defect none
  refine ⟨.malformed defect (Text.trim line) ::
    console.sink.complaint (console.printed.size + printed.length), ?_⟩
  rw [exec_readNum]
  simp only [Console.advance, taken, malformed]
  simp [Console.refuse, Console.record, Console.print]

/-- Lines without a number are used up one by one. -/
theorem exec_readNum_refused {source rest : Source} (yields : source.Yields refused rest)
    (none : ∀ line ∈ refused, ∀ n, ¬ OnLine line n) (printed : List Line) (events : List Event) :
    ∃ more, (Stmt.readNum target).exec settings fuel store
        (console.advance source printed events) =
      (Stmt.readNum target).exec settings fuel store
        (console.advance rest
          (printed ++ List.replicate refused.length (.prompt settings.prompt))
          (events ++ more)) := by
  induction yields generalizing printed events with
  | nothing source => exact ⟨[], by simp⟩
  | @line source middle last line refused taken yields ih =>
    obtain ⟨here, later⟩ := List.forall_mem_cons.mp none
    obtain ⟨left, refuse⟩ :=
      exec_readNum_refuse settings fuel target store console taken here printed events
    obtain ⟨more, goesOn⟩ := ih later (printed ++ [.prompt settings.prompt]) (events ++ left)
    refine ⟨left ++ more, ?_⟩
    rw [refuse, goesOn, List.length_cons, List.replicate_succ]
    simp

/-- The first number is read, whatever the lines before it and the source. -/
theorem exec_readNum_of_firstFrom {source rest : Source}
    (first : FirstFrom source refused n rest) (printed : List Line) (events : List Event) :
    ∃ more, (Stmt.readNum target).exec settings fuel store
        (console.advance source printed events) =
      .done (store.bind target n) (console.advance rest
        (printed ++ List.replicate refused.length (.prompt settings.prompt)) (events ++ more)) := by
  obtain ⟨line, middle, yields, taken, held, none⟩ := first
  obtain ⟨more, refuses⟩ :=
    exec_readNum_refused settings fuel target store console yields none printed events
  refine ⟨more ++ [.read target n], ?_⟩
  rw [refuses, exec_readNum_onLine settings fuel target store console taken held,
    List.append_assoc]

theorem EndsIn.readNum {rest : Source} (first : FirstFrom console.source refused n rest) :
    ∃ events, (Stmt.readNum target).EndsIn settings store console
      (.done (store.bind target n) (console.advance rest
        (List.replicate refused.length (.prompt settings.prompt)) events)) := by
  obtain ⟨events, ran⟩ := exec_readNum_of_firstFrom settings 0 target store console first [] []
  rw [Console.advance_self] at ran
  exact ⟨events, nofun, 0, ran⟩

theorem exec_readNum_of_firstOf {rest : List String} (first : FirstOf lines refused n rest) :
    ∃ events, (Stmt.readNum target).exec settings fuel store (console.supply lines) =
      .done (store.bind target n) (console.advance (.script rest)
        (List.replicate refused.length (.prompt settings.prompt)) events) := by
  rw [Console.supply_eq_advance]
  exact exec_readNum_of_firstFrom settings fuel target store console first.firstFrom [] []

theorem exec_readNum_of_none (none : ∀ line ∈ lines, ∀ n, ¬ OnLine line n) :
    ∃ events, (Stmt.readNum target).exec settings fuel store (console.supply lines) =
      .failed (.inputClosed target) (console.advance (.script [])
        (List.replicate lines.length (.prompt settings.prompt)) events) := by
  have yields := Source.Yields.ofScript lines []
  rw [List.append_nil] at yields
  obtain ⟨events, refuses⟩ :=
    exec_readNum_refused settings fuel target store console yields none [] []
  refine ⟨events, ?_⟩
  rw [Console.supply_eq_advance, refuses, exec_readNum]
  exact congrArg (Outcome.failed _) (Console.starve_of_unfailing rfl)

end

/-- If a line holds a number, a read binds its target to the number on the first such line, uses up
the lines up to that one and prints one prompt for each line before it. If no line does, it fails
once it has used up all lines, with one prompt for each. Whatever it binds was on a line that holds
it, and on no line before was there a number. -/
theorem readNum_takes_first_number (settings : Settings) (fuel : Nat) (target : Name)
    (store : Store) (console : Console) (lines : List String) :
    ((∃ line ∈ lines, ∃ n, OnLine line n) →
      ∃ refused n rest events, FirstOf lines refused n rest ∧
        (Stmt.readNum target).exec settings fuel store (console.supply lines) =
          .done (store.bind target n) (console.advance (.script rest)
            (List.replicate refused.length (.prompt settings.prompt)) events)) ∧
    ((∀ line ∈ lines, ∀ n, ¬ OnLine line n) →
      ∃ events, (Stmt.readNum target).exec settings fuel store (console.supply lines) =
        .failed (.inputClosed target) (console.advance (.script [])
          (List.replicate lines.length (.prompt settings.prompt)) events)) ∧
    ∀ final after,
      (Stmt.readNum target).exec settings fuel store (console.supply lines) = .done final after →
      ∃ refused n rest, FirstOf lines refused n rest ∧ final = store.bind target n ∧
        after.source = .script rest := by
  refine ⟨fun some => ?_, exec_readNum_of_none settings fuel target store console,
    fun final after done => ?_⟩
  · obtain ⟨refused, n, rest, first⟩ := exists_firstOf some
    obtain ⟨events, ran⟩ := exec_readNum_of_firstOf settings fuel target store console first
    exact ⟨refused, n, rest, events, first, ran⟩
  · by_cases some : ∃ line ∈ lines, ∃ n, OnLine line n
    · obtain ⟨refused, n, rest, first⟩ := exists_firstOf some
      obtain ⟨events, ran⟩ := exec_readNum_of_firstOf settings fuel target store console first
      rw [ran] at done
      cases done
      exact ⟨refused, n, rest, first, rfl, rfl⟩
    · obtain ⟨events, failed⟩ :=
        exec_readNum_of_none settings fuel target store console (by simpa using some)
      rw [failed] at done
      cases done

example : Numeral.signed (Text.trim "\u2003\t-0009223372036854775808\r\n") =
    .ok (-9223372036854775808) := by
  decide +kernel

end Stmt

end ImpLang
