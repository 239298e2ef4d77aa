import ImpLang.Proofs.Bracketing
import ImpLang.Proofs.NumberReading
import ImpLang.Proofs.WriteHistory

/-!
# What is written can be read back

Numbers written one after another are lines of the output, and a program that reads as many names
from these lines, with any white space around them, binds the names to the numbers in order. It asks
for nothing again and leaves no line.
-/

namespace ImpLang

/-! ## Lines of a text -/

namespace Text

/-- Characters cut at each newline. What stands after the last newline is a piece if it is not
empty. -/
def cutLines : List Char → List (List Char)
  | [] => []
  | c :: rest =>
    if c = '\n' then [] :: cutLines rest
    else
      match cutLines rest with
      | [] => [[c]]
      | line :: others => (c :: line) :: others

/-- The lines of a text, without their newlines. -/
def lines (text : String) : List String :=
  (cutLines text.toList).map String.ofList

theorem cutLines_append {line : List Char} (whole : '\n' ∉ line) (rest : List Char) :
    cutLines (line ++ '\n' :: rest) = line :: cutLines rest := by
  induction line with
  | nil => simp [cutLines]
  | cons c line ih =>
    simp only [List.mem_cons, not_or] at whole
    rw [List.cons_append, cutLines, if_neg (Ne.symm whole.1), ih whole.2]

/-- Lines that hold no newline are found again. -/
theorem lines_unlines {texts : List String} (whole : ∀ line ∈ texts, '\n' ∉ line.toList) :
    lines (unlines texts) = texts := by
  induction texts with
  | nil => rfl
  | cons line texts ih =>
    obtain ⟨first, others⟩ := List.forall_mem_cons.mp whole
    have chars : (unlines (line :: texts)).toList =
        line.toList ++ '\n' :: (unlines texts).toList := by
      simp [unlines]
    rw [lines, chars, cutLines_append first, List.map_cons, String.ofList_toList, ← lines,
      ih others]

/-- The second line is the first with white space added before and after. -/
def Padded (line padded : String) : Prop :=
  ∃ left right, padded.toList = left ++ line.toList ++ right ∧ AllBlank left ∧ AllBlank right

end Text

namespace Numeral

variable {n : Int64} {line : String}

theorem denotes_render (n : Int64) : Denotes (render n.toInt).toList n.toInt :=
  signed_eq_ok_iff.mp (signed_render n)

theorem blank_notMem_render {c : Char} (blank : Text.isBlank c = true) (n : Int64) :
    c ∉ (render n.toInt).toList := by
  intro member
  have solid := (denotes_render n).not_isBlank c member
  simp [blank] at solid

theorem newline_notMem_render (n : Int64) : '\n' ∉ (render n.toInt).toList :=
  blank_notMem_render (by decide) n

/-- White space around a written number does not hide it. -/
theorem OnLine.of_padded (padded : Text.Padded (render n.toInt) line) : OnLine line n := by
  obtain ⟨left, right, whole, before, after⟩ := padded
  exact ⟨left, _, right, whole, before, after, denotes_render n⟩

end Numeral

/-! ## Statements in order -/

namespace Stmt

variable {settings : Settings} {store : Store}

/-- The tree does these statements in order and nothing else; without any, it is `skip`. -/
def Sequences (stmts : List Stmt) (tree : Stmt) : Prop :=
  Brackets stmts tree ∨ stmts = [] ∧ tree = .skip

theorem Sequences.endsIn {stmts : List Stmt} {tree : Stmt} {console : Console}
    {outcome : Outcome Fault} (sequences : Sequences stmts tree)
    (runs : RunsInTurn settings stmts store console outcome) :
    tree.EndsIn settings store console outcome := by
  rcases sequences with brackets | ⟨rfl, rfl⟩
  · exact brackets.endsIn_iff.mpr runs
  · cases runs
    exact ⟨Outcome.done_ne_outOfFuel store console, 0, rfl⟩

/-- Each expression is written on a line of its own. -/
theorem writes_runInTurn (settings : Settings) {exprs : List Expr} {values : List Int64}
    (denote : List.Forall₂ (fun e n => e.eval store = .ok (.int n)) exprs values)
    (console : Console) (rest : Source) (printed : List Line) (events : List Event) :
    ∃ more, RunsInTurn settings (exprs.map .writeNum) store (console.advance rest printed events)
      (.done store (console.advance rest
        (printed ++ values.map fun n => .written (Numeral.render n.toInt)) (events ++ more))) := by
  induction denote generalizing printed events with
  | nil => exact ⟨[], by simpa using RunsInTurn.none store _⟩
  | @cons e n exprs values found _ ih =>
    have wrote : (Stmt.writeNum e).EndsIn settings store (console.advance rest printed events)
        (.done store _) := .writeNum found
    rw [Console.print_advance] at wrote
    obtain ⟨more, later⟩ := ih (printed ++ [.written (Numeral.render n.toInt)]) _
    rw [List.append_assoc, List.singleton_append, List.append_assoc] at later
    exact ⟨_, .goesOn wrote later⟩

/-- Each name is bound to the number on the next line. -/
theorem reads_runInTurn (settings : Settings) {names : List Name} {values : List Int64}
    {inputs : List String} (enough : names.length = values.length)
    (held : List.Forall₂ Numeral.OnLine inputs values) (store : Store) (console : Console)
    (rest : List String) (printed : List Line) (events : List Event) :
    RunsInTurn settings (names.map .readNum) store
      (console.advance (.script (inputs ++ rest)) printed events)
      (.done (store.bindAll (names.zip values)) (console.advance (.script rest) printed
        (events ++ (names.zip values).map fun write => .read write.1 write.2))) := by
  induction held generalizing names store events with
  | nil =>
    rw [List.length_nil, List.length_eq_zero_iff] at enough
    subst enough
    simpa [Store.bindAll] using RunsInTurn.none store _
  | @cons line n inputs values here _ ih =>
    cases names with
    | nil => simp at enough
    | cons name names =>
      have read : (Stmt.readNum name).EndsIn settings store
          (console.advance (.script (line :: (inputs ++ rest))) printed events)
          (.done (store.bind name n) (console.advance (.script (inputs ++ rest)) printed
            (events ++ [.read name n]))) :=
        ⟨Outcome.done_ne_outOfFuel _ _, 0,
          exec_readNum_onLine settings 0 name store console rfl here printed events⟩
      have later := ih (Nat.succ.inj enough) (store.bind name n) (events ++ [.read name n])
      rw [List.append_assoc, List.singleton_append] at later
      exact .goesOn read later

end Stmt

theorem Console.textFrom_advance (console : Console) (rest : Source) (printed : List Line)
    (events : List Event) :
    (console.advance rest printed events).textFrom console.printed.size =
      Text.unlines (printed.map Line.text) := by
  simp [textFrom, advance]

namespace Program

/-- A program that writes numbers ends with one line for each. -/
theorem endsIn_of_writes {values : List Int64} {exprs : List Expr} (writer : Program)
    (settings : Settings) (console : Console)
    (writes : Stmt.Sequences (exprs.map .writeNum) writer.body)
    (denote : List.Forall₂ (fun e n => e.eval (.initial writer.vars) = .ok (.int n)) exprs
      values) :
    ∃ events, writer.EndsIn settings console (.done (.initial writer.vars)
      (console.advance console.source
        (values.map fun n => .written (Numeral.render n.toInt)) events)) := by
  have start : console.record (.started writer.name writer.vars.length) =
      console.advance console.source [] [.started writer.name writer.vars.length] := by
    simp [Console.record, Console.advance]
  obtain ⟨more, runs⟩ := Stmt.writes_runInTurn settings denote console console.source []
    [.started writer.name writer.vars.length]
  have ran := writes.endsIn runs
  rw [← start] at ran
  have ends := BodyEndsIn.done ran
  rw [Console.record_advance] at ends
  exact ⟨_, ends⟩

/-- A program that reads from lines with numbers ends with each name bound to the number on its
line. -/
theorem endsIn_of_reads {values : List Int64} {names : List Name} {inputs : List String}
    (reader : Program) (settings : Settings) (console : Console)
    (reads : Stmt.Sequences (names.map .readNum) reader.body)
    (enough : names.length = values.length) (held : List.Forall₂ Numeral.OnLine inputs values) :
    ∃ store, store = (Store.initial reader.vars).bindAll (names.zip values) ∧
      reader.EndsIn settings (console.supply inputs)
        (.done store (console.advance (.script []) []
          (.started reader.name reader.vars.length ::
            (names.zip values).map (fun write => .read write.1 write.2) ++
              [.finished store.size]))) := by
  have start : (console.supply inputs).record (.started reader.name reader.vars.length) =
      console.advance (.script (inputs ++ [])) []
        [.started reader.name reader.vars.length] := by
    simp [Console.supply, Console.record, Console.advance]
  have ran := reads.endsIn (Stmt.reads_runInTurn settings enough held (.initial reader.vars)
    console [] [] [.started reader.name reader.vars.length])
  rw [← start] at ran
  have ends := BodyEndsIn.done ran
  rw [Console.record_advance] at ends
  exact ⟨_, rfl, ends⟩

/-- A program writes numbers, each by an expression that denotes it, and ends. Its output, cut into
lines and with any white space around each, is the input of a program that reads as many names. That
program binds the names to the numbers in order, one read each; it prints nothing and uses up all
lines. -/
theorem written_numbers_read_back {values : List Int64} {exprs : List Expr} {names : List Name}
    (writer reader : Program) (settings settings' : Settings) (console console' : Console)
    (writes : Stmt.Sequences (exprs.map .writeNum) writer.body)
    (denote : List.Forall₂ (fun e n => e.eval (.initial writer.vars) = .ok (.int n)) exprs values)
    (reads : Stmt.Sequences (names.map .readNum) reader.body)
    (enough : names.length = values.length) :
    ∃ final after, writer.EndsIn settings console (.done final after) ∧
      ∀ inputs,
        List.Forall₂ Text.Padded (Text.lines (after.textFrom console.printed.size)) inputs →
        ∃ store, store = (Store.initial reader.vars).bindAll (names.zip values) ∧
          reader.EndsIn settings' (console'.supply inputs)
            (.done store (console'.advance (.script []) []
              (.started reader.name reader.vars.length ::
                (names.zip values).map (fun write => .read write.1 write.2) ++
                  [.finished store.size]))) := by
  obtain ⟨events, wrote⟩ := endsIn_of_writes writer settings console writes denote
  refine ⟨_, _, wrote, fun inputs padded => ?_⟩
  have output : Text.lines ((console.advance console.source
      (values.map fun n => .written (Numeral.render n.toInt)) events).textFrom
        console.printed.size) = values.map fun n => Numeral.render n.toInt := by
    rw [Console.textFrom_advance, List.map_map]
    exact Text.lines_unlines (by simp [Line.text, Numeral.newline_notMem_render])
  rw [output, List.forall₂_map_left_iff] at padded
  have held : List.Forall₂ Numeral.OnLine inputs values :=
    (padded.imp fun _ _ => Numeral.OnLine.of_padded).flip
  exact endsIn_of_reads reader settings' console' reads enough held

/-- The least and the greatest number and a zero. The first is computed, the last is a declared
variable, and the lines get a wide space, tabs and newlines around them. -/
theorem written_numbers_read_back_extremes : ∃ after store,
    EndsIn {}
      ⟨"out", [⟨"z"⟩], .seq
        (.seq (.writeNum (.sub (.int (-9223372036854775807)) (.int 1)))
          (.writeNum (.int 9223372036854775807)))
        (.writeNum (.named "z"))⟩
      { source := .script [], sink := .buffer } (.done (.initial [⟨"z"⟩]) after) ∧
    Text.lines after.captured = ["-9223372036854775808", "9223372036854775807", "0"] ∧
    store.entries = [(⟨"a"⟩, -9223372036854775808), (⟨"b"⟩, 9223372036854775807), (⟨"c"⟩, 0)] ∧
    EndsIn {} ⟨"in", [], .seq (.readNum ⟨"a"⟩) (.seq (.readNum ⟨"b"⟩) (.readNum ⟨"c"⟩))⟩
      { source := .script ["\u2003-9223372036854775808\r\n", "\t9223372036854775807\t", "0\n"],
        sink := .discard }
      (.done store
        { source := .script [], sink := .discard,
          events := #[.started "in" 0, .read ⟨"a"⟩ (-9223372036854775808),
            .read ⟨"b"⟩ 9223372036854775807, .read ⟨"c"⟩ 0, .finished 3] }) := by
  have writes : Stmt.Sequences
      ([.sub (.int (-9223372036854775807)) (.int 1), .int 9223372036854775807, .named "z"].map
        .writeNum)
      (.seq (.seq (.writeNum (.sub (.int (-9223372036854775807)) (.int 1)))
        (.writeNum (.int 9223372036854775807))) (.writeNum (.named "z"))) :=
    Or.inl (.join (.join (.one _) (.one _)) (.one _))
  have reads : Stmt.Sequences ([⟨"a"⟩, ⟨"b"⟩, ⟨"c"⟩].map .readNum)
      (.seq (.readNum ⟨"a"⟩) (.seq (.readNum ⟨"b"⟩) (.readNum ⟨"c"⟩))) :=
    Or.inl (.join (.one _) (.join (.one _) (.one _)))
  have denote : List.Forall₂
      (fun (e : Expr) (n : Int64) => e.eval (.initial [⟨"z"⟩]) = .ok (.int n))
      [.sub (.int (-9223372036854775807)) (.int 1), .int 9223372036854775807, .named "z"]
      [-9223372036854775808, 9223372036854775807, 0] :=
    .cons (by decide +kernel) (.cons (by decide +kernel) (.cons (by decide +kernel) .nil))
  obtain ⟨final, after, wrote, readsBack⟩ := written_numbers_read_back
    ⟨"out", [⟨"z"⟩], _⟩ ⟨"in", [], _⟩ {} {} { source := .script [], sink := .buffer }
    { source := .script [], sink := .discard } writes denote reads rfl
  have same : Outcome.done final after = .done (.initial [⟨"z"⟩])
      { source := .script [], sink := .buffer,
        printed := #[.written "-9223372036854775808", .written "9223372036854775807",
          .written "0"],
        events := #[.started "out" 1, .finished 1] } :=
    wrote.unique ⟨by simp, 0, by decide +kernel⟩
  obtain ⟨rfl, shown⟩ := Outcome.done.inj same
  have output : Text.lines (after.textFrom 0) =
      ["-9223372036854775808", "9223372036854775807", "0"] := by
    rw [shown]
    decide +kernel
  have padded : List.Forall₂ Text.Padded (Text.lines (after.textFrom 0))
      ["\u2003-9223372036854775808\r\n", "\t9223372036854775807\t", "0\n"] := by
    rw [output]
    refine .cons ⟨['\u2003'], ['\r', '\n'], ?_⟩
      (.cons ⟨['\t'], ['\t'], ?_⟩ (.cons ⟨[], ['\n'], ?_⟩ .nil))
    all_goals decide +kernel
  obtain ⟨store, bound, ends⟩ := readsBack _ padded
  refine ⟨after, store, wrote, ?_, ?_, ?_⟩
  · rw [shown] at output ⊢
    exact output
  · rw [bound]
    decide +kernel
  · subst bound
    exact ends

end Program

end ImpLang
