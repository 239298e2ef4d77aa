import ImpLang.Catalog
import ImpLang.Proofs.Agreement
import ImpLang.Proofs.NumberReading
import ImpLang.Proofs.Range
import Mathlib.Data.Nat.Factorial.Basic

/-!
# Factorials

Before each round of its loop, the sample `factorial` has the product of the numbers below its
counter (`Factoring`). The product of the first twenty numbers fits into 64 bits and that of the
first twenty-one does not, so a loop that goes as far as twenty-one fails there, long before its
bound or its counter could be a matter of concern, and any other comes to its end.
-/

namespace ImpLang.Catalog

open Nat (factorial_succ factorial_le)

/-- The body of the loop of `factorial`. -/
def multiply : Stmt :=
  .assign ⟨"f"⟩ (.mul (.named "f") (.named "i"))

theorem factorial_body : factorial.body =
    .seq (.writeStr "n?") (.seq (.readNum ⟨"n"⟩) (.seq (.assign ⟨"f"⟩ (.int 1))
      (.seq (.forTo ⟨"i"⟩ (.int 1) (.named "n") multiply) (.writeNum (.named "f"))))) := rfl

theorem multiply_undisturbed : Undisturbed ⟨"i"⟩ (.named "n") multiply :=
  ⟨by decide, by decide, by decide⟩

/-- The loop of `factorial`, up to `n`, has multiplied so many numbers. -/
structure Factoring (n : Int64) (k : Nat) (store : Store) : Prop where
  counting : ∃ i : Int64, i.toInt = k + 1 ∧ Counting ⟨"i"⟩ (.named "n") n i store
  product : ∃ f : Int64, f.toInt = k.factorial ∧ store.get? ⟨"f"⟩ = some f

namespace Factoring

variable {n : Int64} {k : Nat} {store : Store}

theorem start (n : Int64) (store : Store) :
    Factoring n 0 (((store.bind ⟨"n"⟩ n).bind ⟨"f"⟩ 1).bind ⟨"i"⟩ 1) := by
  have bound : (Expr.named "n").eval ((store.bind ⟨"n"⟩ n).bind ⟨"f"⟩ 1) = .ok (.int n) := by
    apply Expr.eval_var_of_ok
    rw [Store.lookup_eq_ok_iff, Store.get?_bind, if_neg (by decide), Store.get?_bind, if_pos rfl]
  constructor
  · exact ⟨1, rfl, Counting.set (by decide) bound 1⟩
  · exact ⟨1, rfl, by simp⟩

theorem enter (factoring : Factoring n k store) :
    (LoopControl.forTo ⟨"i"⟩ (.named "n")).enter store =
      .ok (decide ((k : Int) + 1 ≤ n.toInt)) := by
  obtain ⟨i, counter, counting⟩ := factoring.counting
  rw [counting.enter, ← counter]
  simp only [Int64.le_iff_toInt_le]

theorem eval_product {f i : Int64} (product : store.get? ⟨"f"⟩ = some f)
    (counter : store.get? ⟨"i"⟩ = some i) :
    (Expr.mul (.named "f") (.named "i")).eval store = (ArithOp.mul.apply f i).map .int :=
  Expr.eval_binary_of_ok (Expr.eval_var_of_ok (Store.lookup_eq_ok_iff.mpr product))
    (Expr.eval_var_of_ok (Store.lookup_eq_ok_iff.mpr counter))

/-- The products of up to twenty numbers fit. -/
theorem fits_factorial (small : k ≤ 20) : Fits (k.factorial : Int) := by
  have most : k.factorial ≤ Nat.factorial 20 := factorial_le small
  have value : Nat.factorial 20 = 2432902008176640000 := rfl
  exact ⟨by omega, by omega⟩

/-- One round multiplies by one more number, as long as there are at most twenty. -/
theorem round (settings : Settings) (factoring : Factoring n k store) (small : k < 20)
    (console : Console) :
    ∃ after next between, multiply.EndsIn settings store console (.done after between) ∧
      (LoopControl.forTo ⟨"i"⟩ (.named "n")).leave after = .ok (next, true) ∧
      Factoring n (k + 1) next ∧ console.Alike between := by
  obtain ⟨i, counter, counting⟩ := factoring.counting
  obtain ⟨f, value, product⟩ := factoring.product
  have exactly : f.toInt * i.toInt = (k + 1).factorial := by
    rw [value, counter, factorial_succ]
    push_cast
    exact Int.mul_comm _ _
  have held : (Int64.ofInt ((k + 1).factorial : Int)).toInt = (k + 1).factorial :=
    toInt_ofInt_of_fits (fits_factorial small)
  have applied : ArithOp.mul.apply f i = .ok (Int64.ofInt ((k + 1).factorial : Int)) := by
    apply ArithOp.apply_eq_ok_iff.mpr
    constructor
    · rw [held, ← exactly]
      exact .mul _ _
    · intro refuses
      cases refuses.1
  have found : (Expr.mul (.named "f") (.named "i")).eval store =
      .ok (.int (Int64.ofInt ((k + 1).factorial : Int))) := by
    rw [eval_product product counting.counter, applied]
    rfl
  have ran : multiply.EndsIn settings store console _ := Stmt.EndsIn.assign found ⟨"f"⟩
  have kept := counting.after multiply_undisturbed ran.framed
  obtain ⟨increased, further, left, counting⟩ := kept.next (by decide) (by omega)
  refine ⟨_, _, _, ran, left, ⟨⟨increased, ?_, counting⟩, _, held, ?_⟩, ?_⟩
  · push_cast
    omega
  · rw [Store.get?_bind, if_neg (by decide), Store.get?_bind, if_pos rfl]
  · exact (Console.Alike.refl console).record_right _

/-- The twenty-first number is too much. -/
theorem roundFails (settings : Settings) (factoring : Factoring n 20 store) (console : Console) :
    multiply.EndsIn settings store console (.failed (.overflow .mul) console) := by
  obtain ⟨i, counter, counting⟩ := factoring.counting
  obtain ⟨f, value, product⟩ := factoring.product
  have isCounter : i = 21 := Int64.toInt_inj.mp counter
  have isProduct : f = 2432902008176640000 := Int64.toInt_inj.mp value
  have failed : (Expr.mul (.named "f") (.named "i")).eval store = .error (.overflow .mul) := by
    rw [eval_product product counting.counter, isCounter, isProduct]
    rfl
  exact Stmt.EndsIn.assignFails (Expr.evalInt_of_error failed)

/-- Up to its bound the loop goes on with one more number, and then stops. -/
theorem stops (settings : Settings) (factoring : Factoring n k store) (within : k ≤ n.toInt.toNat)
    (reached : ¬ (k : Int) + 1 ≤ n.toInt) (rounds : UInt64) (console : Console) :
    ∃ after, (LoopControl.forTo ⟨"i"⟩ (.named "n")).EndsIn settings multiply rounds store console
        (.done store after) ∧
      console.Alike after ∧ Factoring n n.toInt.toNat store := by
  have last : k = n.toInt.toNat := by omega
  have stopped : (LoopControl.forTo ⟨"i"⟩ (.named "n")).enter store = .ok false := by
    rw [factoring.enter, decide_eq_false reached]
  exact ⟨_, .stop stopped, (Console.Alike.refl console).record_right _, last ▸ factoring⟩

/-- How the loop of `factorial` ends, by induction on the numbers left up to twenty. -/
theorem run (settings : Settings) (unlimited : settings.maxIterations = none)
    (factoring : Factoring n k store) (small : k ≤ 20) (within : k ≤ n.toInt.toNat)
    (rounds : UInt64) (console : Console) :
    (n.toInt ≤ 20 → ∃ final after, (LoopControl.forTo ⟨"i"⟩ (.named "n")).EndsIn settings multiply
        rounds store console (.done final after) ∧
      console.Alike after ∧ Factoring n n.toInt.toNat final) ∧
    (20 < n.toInt → ∃ after, (LoopControl.forTo ⟨"i"⟩ (.named "n")).EndsIn settings multiply rounds
        store console (.failed (.overflow .mul) after) ∧
      console.Alike after) := by
  have begun := LoopControl.beginRound_unlimited unlimited
  induction left : 20 - k generalizing k store rounds console with
  | zero =>
    have twenty : k = 20 := by omega
    subst twenty
    constructor
    · intro few
      exact ⟨store, factoring.stops settings within (by omega) rounds console⟩
    · intro many
      have entered : (LoopControl.forTo ⟨"i"⟩ (.named "n")).enter store = .ok true := by
        rw [factoring.enter, decide_eq_true (by omega)]
      exact ⟨console, .bodyFails entered (begun rounds) (factoring.roundFails settings console),
        .refl console⟩
  | succ left ih =>
    by_cases more : (k : Int) + 1 ≤ n.toInt
    · have entered : (LoopControl.forTo ⟨"i"⟩ (.named "n")).enter store = .ok true := by
        rw [factoring.enter, decide_eq_true more]
      obtain ⟨after, next, between, ran, goesOn, factoring, quiet⟩ :=
        factoring.round settings (by omega) console
      obtain ⟨succeeds, fails⟩ := ih factoring (by omega) (by omega)
        (LoopControl.nextRound rounds) between (by omega)
      constructor
      · intro few
        obtain ⟨final, last, ends, alike, ended⟩ := succeeds few
        exact ⟨final, last, .again entered (begun rounds) ran goesOn ends, quiet.trans alike, ended⟩
      · intro many
        obtain ⟨last, ends, alike⟩ := fails many
        exact ⟨last, .again entered (begun rounds) ran goesOn ends, quiet.trans alike⟩
    · constructor
      · intro _
        exact ⟨store, factoring.stops settings within more rounds console⟩
      · intro many
        omega

end Factoring

/-! ## The sample -/

/-- After its question and its read, `factorial` stands before its loop with the number read. -/
theorem factorial_reads (prompt : String) (console : Console) {n : Int64} {refused : List String}
    {rest : Source} (first : Numeral.FirstFrom console.source refused n rest) :
    ∃ store between, Factoring n 0 (store.bind ⟨"i"⟩ 1) ∧ between.source = rest ∧
      between.printed.toList = console.printed.toList ++
        .written "n?" :: List.replicate refused.length (Line.prompt prompt) ∧
      ∀ outcome, (Stmt.seq (.forTo ⟨"i"⟩ (.int 1) (.named "n") multiply)
          (.writeNum (.named "f"))).EndsIn { maxIterations := none, prompt := prompt } store between
          outcome →
        factorial.BodyEndsIn { maxIterations := none, prompt := prompt } console outcome := by
  obtain ⟨events, read⟩ := Stmt.EndsIn.readNum { maxIterations := none, prompt := prompt } ⟨"n"⟩
    (.initial factorial.vars)
    ((console.record (.started factorial.name factorial.vars.length)).print (.written "n?")) first
  have asked : (Stmt.writeStr "n?").EndsIn { maxIterations := none, prompt := prompt }
      (.initial factorial.vars) (console.record (.started factorial.name factorial.vars.length))
      (.done _ _) := ⟨nofun, 0, rfl⟩
  refine ⟨_, _, .start n (.initial factorial.vars), ?_, ?_,
    fun outcome ends => asked.seq (read.seq ((Stmt.EndsIn.assign rfl ⟨"f"⟩).seq ends))⟩
  · rfl
  · simp [Console.advance, Console.record, Console.print]

section

variable (prompt : String) {console : Console} {n : Int64} {refused : List String} {rest : Source}

theorem factorial_fails (first : Numeral.FirstFrom console.source refused n rest)
    (many : 20 < n.toInt) :
    ∃ after, after.source = rest ∧
      after.printed.toList = console.printed.toList ++
        .written "n?" :: List.replicate refused.length (Line.prompt prompt) ∧
      factorial.EndsIn { maxIterations := none, prompt := prompt } console
        (.failed ((Fault.overflow .mul).report.withNote factorial.note) after) := by
  obtain ⟨store, between, factoring, left, shown, continues⟩ :=
    factorial_reads prompt console first
  obtain ⟨after, loop, alike⟩ := (factoring.run { maxIterations := none, prompt := prompt } rfl
    (by omega) (by omega) 0 between).2 many
  have low : (Expr.int 1).eval store = .ok (.int 1) := rfl
  have overflows := (Stmt.EndsIn.forTo low loop).seqFails (.writeNum (.named "f"))
  refine ⟨_, ?_, ?_, Program.BodyEndsIn.failed (continues _ overflows)⟩
  · rw [← left, alike.source]
    rfl
  · rw [← shown, alike.printed]
    rfl

theorem factorial_succeeds (first : Numeral.FirstFrom console.source refused n rest)
    (few : n.toInt ≤ 20) :
    ∃ (f : Int64) (store : Store) (after : Console),
      f.toInt = n.toInt.toNat.factorial ∧ store.get? ⟨"f"⟩ = some f ∧
      Factoring n n.toInt.toNat store ∧ after.source = rest ∧
      after.printed.toList = console.printed.toList ++
        .written "n?" :: List.replicate refused.length (Line.prompt prompt) ++
          [.written (Numeral.render f.toInt)] ∧
      factorial.EndsIn { maxIterations := none, prompt := prompt } console (.done store after) := by
  obtain ⟨store, between, factoring, left, shown, continues⟩ :=
    factorial_reads prompt console first
  obtain ⟨final, after, loop, alike, ended⟩ := (factoring.run
    { maxIterations := none, prompt := prompt } rfl (by omega) (by omega) 0 between).1 few
  obtain ⟨f, value, product⟩ := ended.product
  have low : (Expr.int 1).eval store = .ok (.int 1) := rfl
  have wrote := (Stmt.EndsIn.forTo low loop).seq
    (Stmt.EndsIn.writeNum (Expr.eval_var_of_ok (Store.lookup_eq_ok_iff.mpr product)))
  refine ⟨f, final, _, value, product, ended, ?_, ?_, Program.BodyEndsIn.done (continues _ wrote)⟩
  · rw [← left, alike.source]
    rfl
  · rw [← shown, alike.printed]
    simp [Console.record, Console.print]

end

/-- `factorial` ends on any number, whatever lines before it are no numbers. Up to twenty it writes
the factorial of the number, which is one if the number is not positive, on the last line; its
variable then has this value, and its counter stands one above the number or at one. Above twenty
the product overflows, and nothing is written after the question and the prompts. -/
theorem factorial_writes_product (prompt : String) (console : Console) (n : Int64)
    {refused : List String} {rest : Source}
    (first : Numeral.FirstFrom console.source refused n rest) :
    (n ≤ 20 → ∃ (f i : Int64) (store : Store) (after : Console),
      factorial.EndsIn { maxIterations := none, prompt := prompt } console (.done store after) ∧
      after.printed.toList = console.printed.toList ++
        .written "n?" :: List.replicate refused.length (.prompt prompt) ++
          [.written (Numeral.render f.toInt)] ∧
      after.source = rest ∧ f.toInt = n.toInt.toNat.factorial ∧ (n ≤ 0 → f = 1) ∧
      store.get? ⟨"f"⟩ = some f ∧ store.get? ⟨"i"⟩ = some i ∧ i.toInt = max 1 (n.toInt + 1)) ∧
    (21 ≤ n → ∃ (report : Report) (after : Console),
      factorial.EndsIn { maxIterations := none, prompt := prompt } console
        (.failed report after) ∧
      report.diagnostic = .integerOverflow "multiplication" ∧
      after.printed.toList = console.printed.toList ++
        .written "n?" :: List.replicate refused.length (.prompt prompt) ∧
      after.source = rest) := by
  constructor
  · intro few
    obtain ⟨f, store, after, value, product, factoring, left, shown, ends⟩ :=
      factorial_succeeds prompt first (Int64.le_iff_toInt_le.mp few)
    obtain ⟨i, counter, counting⟩ := factoring.counting
    have empty (negative : n ≤ 0) : f = 1 := by
      have below : n.toInt ≤ 0 := Int64.le_iff_toInt_le.mp negative
      rw [Int.toNat_of_nonpos below] at value
      exact Int64.toInt_inj.mp value
    exact ⟨f, i, store, after, ends, shown, left, value, empty, product, counting.counter,
      by omega⟩
  · intro many
    have above : 21 ≤ n.toInt := Int64.le_iff_toInt_le.mp many
    obtain ⟨after, left, shown, ends⟩ := factorial_fails prompt first (by omega)
    exact ⟨_, after, ends, rfl, shown, left⟩

/-- The last number that has a product, after a line that is no number, and the greatest integer. -/
theorem factorial_writes_product_twenty :
    (∃ (f i : Int64) (store : Store) (after : Console),
      factorial.EndsIn {} { source := .script ["", "+20", "5"], sink := .buffer }
        (.done store after) ∧
      after.printed.toList =
        [.written "n?", .prompt defaultPrompt, .written (Numeral.render f.toInt)] ∧
      f = 2432902008176640000 ∧ store.get? ⟨"f"⟩ = some f ∧ store.get? ⟨"i"⟩ = some i ∧
      i = 21) ∧
    ∃ (report : Report) (after : Console),
      factorial.EndsIn {}
        { source := .stream "9223372036854775807".toUTF8.toList, sink := .terminal }
        (.failed report after) ∧
      report.diagnostic = .integerOverflow "multiplication" ∧
      after.printed.toList = [.written "n?"] := by
  have twenty : Numeral.FirstFrom (.script ["", "+20", "5"]) [""] 20 (.script ["5"]) := by
    refine Numeral.FirstOf.firstFrom ⟨"+20", rfl, ?_, ?_⟩
    · exact Numeral.signed_trim_eq_ok_iff.mp (by decide +kernel)
    · have malformed : Numeral.signed (Text.trim "") = .error .empty := by decide +kernel
      simpa using Numeral.not_onLine_of_error malformed
  have greatest : Numeral.FirstFrom (.stream "9223372036854775807".toUTF8.toList) []
      9223372036854775807 (.stream []) :=
    ⟨"9223372036854775807", _, .nothing _, by decide +kernel,
      Numeral.signed_trim_eq_ok_iff.mp (by decide +kernel), by simp⟩
  constructor
  · obtain ⟨f, i, store, after, ends, shown, _, value, _, product, counter, past⟩ :=
      (factorial_writes_product defaultPrompt { source := _, sink := .buffer } 20 twenty).1
        (by decide)
    exact ⟨f, i, store, after, ends, shown, Int64.toInt_inj.mp value, product, counter,
      Int64.toInt_inj.mp past⟩
  · obtain ⟨report, after, ends, overflows, shown, _⟩ :=
      (factorial_writes_product defaultPrompt { source := _, sink := .terminal } 9223372036854775807
        greatest).2 (by decide)
    exact ⟨report, after, ends, overflows, shown⟩

end ImpLang.Catalog
