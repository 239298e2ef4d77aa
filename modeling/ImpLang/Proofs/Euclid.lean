import ImpLang.Catalog
import ImpLang.Proofs.Agreement
import ImpLang.Proofs.NumberReading

/-!
# Greatest common divisors

The sample `gcd` replaces two numbers by the second and the remainder of the first, until the second
is zero. The remainder is the truncated one, so it may be negative, but in size it is the remainder
of the sizes: each round keeps the common divisors and makes the second number smaller in size
(`Pair.round`). The one remainder that 64 bits refuse, of the least integer by minus one, comes up
at once or after one exchange of the two numbers, and never later (`refused_iff_next`).
-/

namespace ImpLang.Catalog

/-! ## Remainders -/

/-- The least integer and minus one, in either order. -/
def Refused (a b : Int64) : Prop :=
  a = -9223372036854775808 ∧ b = -1 ∨ a = -1 ∧ b = -9223372036854775808

theorem exists_remainder {a b : Int64} (nonzero : b ≠ 0)
    (usual : ¬ (a = -9223372036854775808 ∧ b = -1)) :
    ∃ r, ArithOp.mod.apply a b = .ok r ∧ r.toInt = a.toInt.tmod b.toInt := by
  have divisor : b.toInt ≠ 0 := fun zero => nonzero (Int64.toInt_inj.mp zero)
  have held : (Int64.ofInt (a.toInt.tmod b.toInt)).toInt = a.toInt.tmod b.toInt :=
    toInt_ofInt_of_fits (fits_tmod (fits_toInt b) divisor)
  refine ⟨_, ArithOp.apply_eq_ok_iff.mpr ⟨?_, ?_⟩, held⟩
  · exact ArithOp.gives_iff.mpr ⟨fun _ => divisor, held⟩
  · intro refuses
    exact usual ⟨Int64.toInt_inj.mp refuses.2.1, Int64.toInt_inj.mp refuses.2.2⟩

/-- A number that is smaller in size than the divisor is its own remainder. -/
theorem tmod_eq_self {x y : Int} (small : x.natAbs < y.natAbs) : x.tmod y = x := by
  have square : 0 ≤ x * x := by
    rw [← Int.natAbs_mul_self]
    exact Int.natCast_nonneg _
  have whole : Truncates x y 0 x := ⟨by omega, small, square⟩
  exact (truncates_iff.mp whole).2.2.symm

/-- After a round the two numbers are refused exactly if they were before. -/
theorem refused_iff_next {a b r : Int64} (usual : ¬ (a = -9223372036854775808 ∧ b = -1))
    (remainder : r.toInt = a.toInt.tmod b.toInt) : Refused b r ↔ Refused a b := by
  have size : r.toInt.natAbs = a.toInt.natAbs % b.toInt.natAbs := by
    rw [remainder, Int.natAbs_tmod]
  constructor
  · rintro (⟨rfl, rfl⟩ | ⟨rfl, rfl⟩)
    · -- A remainder of size one by the least integer is the dividend itself.
      have one : 1 = a.toInt.natAbs % 9223372036854775808 := size
      have low := (fits_toInt a).1
      have high := (fits_toInt a).2
      have small : a.toInt.natAbs < 9223372036854775808 := by omega
      rw [tmod_eq_self small] at remainder
      exact Or.inr ⟨Int64.toInt_inj.mp remainder.symm, rfl⟩
    · have one : (-1 : Int64).toInt.natAbs = 1 := rfl
      rw [one, Nat.mod_one] at size
      exact absurd size (by decide)
  · rintro (least | ⟨rfl, rfl⟩)
    · exact absurd least usual
    · exact Or.inl ⟨rfl, Int64.toInt_inj.mp remainder⟩

theorem gcd_tmod (x y : Int) : Int.gcd y (x.tmod y) = Int.gcd x y := by
  unfold Int.gcd
  rw [Int.natAbs_tmod, Nat.gcd_comm, ← Nat.gcd_rec, Nat.gcd_comm]

/-- A common divisor of two numbers that is the greatest in size, and not negative unless one of
them is. -/
structure Measures (a b g : Int64) : Prop where
  size : g.toInt.natAbs = Int.gcd a.toInt b.toInt
  sign : 0 ≤ a.toInt → 0 ≤ b.toInt → 0 ≤ g.toInt

theorem Measures.zero (a : Int64) : Measures a 0 a := by
  constructor
  · exact (Int.gcd_zero_right a.toInt).symm
  · intro positive _
    exact positive

theorem Measures.next {a b r g : Int64} (measures : Measures b r g)
    (remainder : r.toInt = a.toInt.tmod b.toInt) : Measures a b g := by
  constructor
  · rw [measures.size, remainder, gcd_tmod]
  · intro first second
    have third : 0 ≤ r.toInt := by
      rw [remainder]
      exact Int.tmod_nonneg b.toInt first
    exact measures.sign second third

/-! ## Rounds -/

/-- What `gcd` asks before each round. -/
def remainderLeft : Expr :=
  .not (.eq (.named "b") (.int 0))

/-- One round of `gcd`. -/
def exchange : Stmt := .block [
  .assign ⟨"t"⟩ (.mod (.named "a") (.named "b")),
  .assign ⟨"a"⟩ (.named "b"),
  .assign ⟨"b"⟩ (.named "t")]

theorem gcd_body : gcd.body =
    .seq (.readNum ⟨"a"⟩) (.seq (.readNum ⟨"b"⟩)
      (.seq (.whileDo remainderLeft exchange) (.writeNum (.named "a")))) := rfl

/-- The two variables of `gcd` have these values. -/
structure Pair (a b : Int64) (store : Store) : Prop where
  first : store.get? ⟨"a"⟩ = some a
  second : store.get? ⟨"b"⟩ = some b

namespace Pair

variable {a b r : Int64} {store : Store}

theorem start (a b : Int64) (store : Store) :
    Pair a b ((store.bind ⟨"a"⟩ a).bind ⟨"b"⟩ b) := by
  constructor
  · simp
  · simp

theorem eval_first (pair : Pair a b store) : (Expr.named "a").eval store = .ok (.int a) :=
  Expr.eval_var_of_ok (Store.lookup_eq_ok_iff.mpr pair.first)

theorem eval_second (pair : Pair a b store) : (Expr.named "b").eval store = .ok (.int b) :=
  Expr.eval_var_of_ok (Store.lookup_eq_ok_iff.mpr pair.second)

theorem eval_remainder (pair : Pair a b store) :
    (Expr.mod (.named "a") (.named "b")).eval store = (ArithOp.mod.apply a b).map .int :=
  Expr.eval_binary_of_ok pair.eval_first pair.eval_second

theorem enter (pair : Pair a b store) :
    (LoopControl.whileDo remainderLeft).enter store = .ok (!decide (b = 0)) := by
  have zero : (Expr.int 0).eval store = .ok (.int 0) := rfl
  have compared : (Expr.eq (.named "b") (.int 0)).eval store = .ok (.bool (decide (b = 0))) :=
    Expr.eval_binary_of_ok pair.eval_second zero
  exact Expr.evalBool_eq_ok_iff.mpr (Expr.eval_not_of_ok compared)

/-- A round whose remainder is found. -/
theorem round (settings : Settings) (pair : Pair a b store)
    (applied : ArithOp.mod.apply a b = .ok r) (console : Console) :
    ∃ after between, exchange.EndsIn settings store console (.done after between) ∧
      Pair b r after ∧ console.Alike between := by
  have found : (Expr.mod (.named "a") (.named "b")).eval store = .ok (.int r) := by
    rw [pair.eval_remainder, applied]
    rfl
  have second : (Expr.named "b").eval (store.bind ⟨"t"⟩ r) = .ok (.int b) := by
    apply Expr.eval_var_of_ok
    rw [Store.lookup_eq_ok_iff, Store.get?_bind, if_neg (by decide), pair.second]
  have third : (Expr.named "t").eval ((store.bind ⟨"t"⟩ r).bind ⟨"a"⟩ b) = .ok (.int r) := by
    apply Expr.eval_var_of_ok
    rw [Store.lookup_eq_ok_iff, Store.get?_bind, if_neg (by decide), Store.get?_bind, if_pos rfl]
  refine ⟨_, _, (Stmt.EndsIn.assign found ⟨"t"⟩).seq
    ((Stmt.EndsIn.assign second ⟨"a"⟩).seq (Stmt.EndsIn.assign third ⟨"b"⟩)), ⟨?_, ?_⟩, ?_⟩
  · simp
  · simp
  · exact (((Console.Alike.refl console).record_right _).record_right _).record_right _

theorem roundFails (settings : Settings) (pair : Pair a b store) {fault : Fault}
    (failed : ArithOp.mod.apply a b = .error fault) (console : Console) :
    exchange.EndsIn settings store console (.failed fault console) := by
  have unknown : (Expr.mod (.named "a") (.named "b")).eval store = .error fault := by
    rw [pair.eval_remainder, failed]
    rfl
  exact (Stmt.EndsIn.assignFails (Expr.evalInt_of_error unknown)).seqFails _

/-- How the loop of `gcd` ends, by induction on the size of the second number: at zero the first one
measures them both, and otherwise a round makes it smaller or is refused. -/
theorem run (settings : Settings) (unlimited : settings.maxIterations = none)
    (pair : Pair a b store) (rounds : UInt64) (console : Console) :
    (Refused a b → ∃ after, (LoopControl.whileDo remainderLeft).EndsIn settings exchange rounds
        store console (.failed (.overflow .mod) after) ∧ console.Alike after) ∧
    (¬ Refused a b → ∃ g final after, (LoopControl.whileDo remainderLeft).EndsIn settings exchange
        rounds store console (.done final after) ∧
      console.Alike after ∧ Pair g 0 final ∧ Measures a b g) := by
  induction size : b.toInt.natAbs using Nat.strongRecOn generalizing a b store rounds console with
  | ind bound ih =>
    by_cases zero : b = 0
    · subst zero
      have stops : (LoopControl.whileDo remainderLeft).enter store = .ok false := by
        rw [pair.enter]
        rfl
      constructor
      · rintro (⟨_, impossible⟩ | ⟨_, impossible⟩)
        · exact absurd impossible (by decide)
        · exact absurd impossible (by decide)
      · intro _
        exact ⟨a, store, _, .stop stops, (Console.Alike.refl console).record_right _, pair,
          .zero a⟩
    · have entered : (LoopControl.whileDo remainderLeft).enter store = .ok true := by
        rw [pair.enter, decide_eq_false zero]
        rfl
      have begun := LoopControl.beginRound_unlimited unlimited rounds
      by_cases least : a = -9223372036854775808 ∧ b = -1
      · obtain ⟨rfl, rfl⟩ := least
        have failed : exchange.EndsIn settings store console (.failed (.overflow .mod) console) :=
          pair.roundFails settings rfl console
        constructor
        · intro _
          exact ⟨console, .bodyFails entered begun failed, .refl console⟩
        · intro usual
          exact absurd (Or.inl ⟨rfl, rfl⟩) usual
      · obtain ⟨r, applied, remainder⟩ := exists_remainder zero least
        obtain ⟨after, between, ran, next, quiet⟩ := pair.round settings applied console
        have smaller : r.toInt.natAbs < bound := by
          have divisor : b.toInt ≠ 0 := fun isZero => zero (Int64.toInt_inj.mp isZero)
          rw [remainder, Int.natAbs_tmod, ← size]
          exact Nat.mod_lt _ (by omega)
        obtain ⟨fails, succeeds⟩ :=
          ih r.toInt.natAbs smaller next (LoopControl.nextRound rounds) between rfl
        rw [refused_iff_next least remainder] at fails succeeds
        constructor
        · intro refused
          obtain ⟨last, goesOn, alike⟩ := fails refused
          exact ⟨last, .again entered begun ran rfl goesOn, quiet.trans alike⟩
        · intro usual
          obtain ⟨g, final, last, goesOn, alike, ended, measures⟩ := succeeds usual
          exact ⟨g, final, last, .again entered begun ran rfl goesOn, quiet.trans alike, ended,
            measures.next remainder⟩

end Pair

/-! ## The sample -/

/-- After its two reads, `gcd` stands before its loop with the numbers read. -/
theorem gcd_reads (prompt : String) (console : Console) {a b : Int64}
    {refused refused' : List String} {middle rest : Source}
    (first : Numeral.FirstFrom console.source refused a middle)
    (second : Numeral.FirstFrom middle refused' b rest) :
    ∃ store between, Pair a b store ∧ between.source = rest ∧
      between.printed.toList = console.printed.toList ++
        List.replicate (refused.length + refused'.length) (Line.prompt prompt) ∧
      ∀ outcome, (Stmt.seq (.whileDo remainderLeft exchange) (.writeNum (.named "a"))).EndsIn
          { maxIterations := none, prompt := prompt } store between outcome →
        gcd.BodyEndsIn { maxIterations := none, prompt := prompt } console outcome := by
  obtain ⟨events, readFirst⟩ := Stmt.EndsIn.readNum { maxIterations := none, prompt := prompt }
    ⟨"a"⟩ (.initial gcd.vars) (console.record (.started gcd.name gcd.vars.length)) first
  obtain ⟨events', readSecond⟩ := Stmt.EndsIn.readNum { maxIterations := none, prompt := prompt }
    ⟨"b"⟩ ((Store.initial gcd.vars).bind ⟨"a"⟩ a) (Console.advance _ middle _ events) second
  refine ⟨_, _, .start a b (.initial gcd.vars), ?_, ?_,
    fun outcome ends => readFirst.seq (readSecond.seq ends)⟩
  · rfl
  · simp [Console.advance, Console.record]

section

variable (prompt : String) {console : Console} {a b : Int64} {refused refused' : List String}
  {middle rest : Source}

theorem gcd_fails (first : Numeral.FirstFrom console.source refused a middle)
    (second : Numeral.FirstFrom middle refused' b rest) (refuses : Refused a b) :
    ∃ after, gcd.EndsIn { maxIterations := none, prompt := prompt } console
      (.failed ((Fault.overflow .mod).report.withNote gcd.note) after) := by
  obtain ⟨store, between, pair, _, _, continues⟩ := gcd_reads prompt console first second
  obtain ⟨after, loop, _⟩ :=
    (pair.run { maxIterations := none, prompt := prompt } rfl 0 between).1 refuses
  exact ⟨_, Program.BodyEndsIn.failed (continues _ ((Stmt.EndsIn.whileDo loop).seqFails _))⟩

theorem gcd_succeeds (first : Numeral.FirstFrom console.source refused a middle)
    (second : Numeral.FirstFrom middle refused' b rest) (usual : ¬ Refused a b) :
    ∃ g store after, Measures a b g ∧ Pair g 0 store ∧ after.source = rest ∧
      after.printed.toList = console.printed.toList ++
        List.replicate (refused.length + refused'.length) (.prompt prompt) ++
          [.written (Numeral.render g.toInt)] ∧
      gcd.EndsIn { maxIterations := none, prompt := prompt } console (.done store after) := by
  obtain ⟨store, between, pair, left, shown, continues⟩ := gcd_reads prompt console first second
  obtain ⟨g, final, after, loop, alike, ended, measures⟩ :=
    (pair.run { maxIterations := none, prompt := prompt } rfl 0 between).2 usual
  have wrote := (Stmt.EndsIn.whileDo loop).seq (Stmt.EndsIn.writeNum ended.eval_first)
  refine ⟨g, final, _, measures, ended, ?_, ?_, Program.BodyEndsIn.done (continues _ wrote)⟩
  · rw [← left, alike.source]
    rfl
  · rw [← shown, alike.printed]
    simp [Console.record, Console.print]

end

/-- `gcd` ends on any two numbers, whatever lines before them are no numbers. It fails exactly for
the least integer and minus one, in either order, by an overflow of the remainder. Otherwise the
last line it writes, after one prompt for each line refused, is a number whose size is the greatest
common divisor of the sizes of the two, or that divisor itself if neither is negative; the first
variable then has this number, and the second is zero. -/
theorem gcd_writes_common_divisor (prompt : String) (console : Console) (a b : Int64)
    {refused refused' : List String} {middle rest : Source}
    (first : Numeral.FirstFrom console.source refused a middle)
    (second : Numeral.FirstFrom middle refused' b rest) :
    ((∃ report after,
        gcd.EndsIn { maxIterations := none, prompt := prompt } console (.failed report after)) ↔
      a = -9223372036854775808 ∧ b = -1 ∨ a = -1 ∧ b = -9223372036854775808) ∧
    (∀ report after,
      gcd.EndsIn { maxIterations := none, prompt := prompt } console (.failed report after) →
      report.diagnostic = .integerOverflow "modulo") ∧
    (¬ (a = -9223372036854775808 ∧ b = -1 ∨ a = -1 ∧ b = -9223372036854775808) →
      ∃ (g : Int64) (store : Store) (after : Console),
        gcd.EndsIn { maxIterations := none, prompt := prompt } console (.done store after) ∧
        after.printed.toList = console.printed.toList ++
          List.replicate (refused.length + refused'.length) (.prompt prompt) ++
            [.written (Numeral.render g.toInt)] ∧
        after.source = rest ∧
        g.toInt.natAbs = Nat.gcd a.toInt.natAbs b.toInt.natAbs ∧
        store.get? ⟨"a"⟩ = some g ∧ store.get? ⟨"b"⟩ = some 0 ∧
        (0 ≤ a → 0 ≤ b → g.toInt = Nat.gcd a.toInt.natAbs b.toInt.natAbs)) := by
  by_cases refuses : Refused a b
  · obtain ⟨after, ends⟩ := gcd_fails prompt first second refuses
    refine ⟨⟨fun _ => refuses, fun _ => ⟨_, _, ends⟩⟩, ?_, fun usual => absurd refuses usual⟩
    intro report last failed
    cases ends.unique failed
    rfl
  · obtain ⟨g, store, after, measures, pair, left, shown, ends⟩ :=
      gcd_succeeds prompt first second refuses
    have never (report : Report) (last : Console) : ¬ gcd.EndsIn
        { maxIterations := none, prompt := prompt } console (.failed report last) := by
      intro failed
      cases ends.unique failed
    have itself (firstPositive : 0 ≤ a) (secondPositive : 0 ≤ b) :
        g.toInt = Nat.gcd a.toInt.natAbs b.toInt.natAbs := by
      have positive := measures.sign (Int64.le_iff_toInt_le.mp firstPositive)
        (Int64.le_iff_toInt_le.mp secondPositive)
      have size := measures.size
      unfold Int.gcd at size
      omega
    refine ⟨?_, fun report last failed => absurd failed (never report last), fun _ =>
      ⟨g, store, after, ends, shown, left, measures.size, pair.first, pair.second, itself⟩⟩
    exact ⟨fun ⟨report, last, failed⟩ => absurd failed (never report last),
      fun refused => absurd refused refuses⟩

/-- Two numbers after a line that is none, and from a stream the two that are refused only after an
exchange. -/
theorem gcd_writes_common_divisor_and_fails :
    (∃ (g : Int64) (store : Store) (after : Console),
      gcd.EndsIn {} { source := .script ["x", " 12", "-18\t", "7"], sink := .buffer }
        (.done store after) ∧
      after.printed.toList = [.prompt defaultPrompt, .written (Numeral.render g.toInt)] ∧
      after.source = .script ["7"] ∧ g.toInt.natAbs = 6 ∧
      store.get? ⟨"a"⟩ = some g ∧ store.get? ⟨"b"⟩ = some 0) ∧
    ∃ report after,
      gcd.EndsIn {}
        { source := .stream "-1\n-9223372036854775808".toUTF8.toList, sink := .terminal }
        (.failed report after) ∧
      report.diagnostic = .integerOverflow "modulo" := by
  have first : Numeral.FirstFrom (.script ["x", " 12", "-18\t", "7"]) ["x"] 12
      (.script ["-18\t", "7"]) := by
    refine Numeral.FirstOf.firstFrom ⟨" 12", rfl, ?_, ?_⟩
    · exact Numeral.signed_trim_eq_ok_iff.mp (by decide +kernel)
    · have malformed : Numeral.signed (Text.trim "x") = .error .invalidDigit := by decide +kernel
      simpa using Numeral.not_onLine_of_error malformed
  have second : Numeral.FirstFrom (.script ["-18\t", "7"]) [] (-18) (.script ["7"]) :=
    Numeral.FirstOf.firstFrom
      ⟨"-18\t", rfl, Numeral.signed_trim_eq_ok_iff.mp (by decide +kernel), by simp⟩
  have minusOne : Numeral.FirstFrom (.stream "-1\n-9223372036854775808".toUTF8.toList) [] (-1)
      (.stream "-9223372036854775808".toUTF8.toList) :=
    ⟨"-1\n", _, .nothing _, by decide +kernel,
      Numeral.signed_trim_eq_ok_iff.mp (by decide +kernel), by simp⟩
  have least : Numeral.FirstFrom (.stream "-9223372036854775808".toUTF8.toList) []
      (-9223372036854775808) (.stream []) :=
    ⟨"-9223372036854775808", _, .nothing _, by decide +kernel,
      Numeral.signed_trim_eq_ok_iff.mp (by decide +kernel), by simp⟩
  constructor
  · obtain ⟨g, store, after, ends, shown, left, size, bound, zero, _⟩ :=
      (gcd_writes_common_divisor defaultPrompt { source := _, sink := .buffer } 12 (-18) first
        second).2.2 (by decide)
    exact ⟨g, store, after, ends, shown, left, size, bound, zero⟩
  · obtain ⟨fails, overflows, _⟩ := gcd_writes_common_divisor defaultPrompt
      { source := _, sink := .terminal } (-1) (-9223372036854775808) minusOne least
    obtain ⟨report, after, ends⟩ := fails.mpr (by decide)
    exact ⟨report, after, ends, overflows report after ends⟩

end ImpLang.Catalog
