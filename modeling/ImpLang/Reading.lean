import ImpLang.Console
import ImpLang.Text.Blank

/-!
# Reading numbers

A number is read from the first line that is one, white space at its ends apart. Each line before it
is used up, recorded with what is wrong with it, and answered with a prompt.
-/

namespace ImpLang

def defaultPrompt : String := "Not a number, try again:"

def Console.refuse (console : Console) (prompt : String) (defect : Numeral.Defect)
    (text : String) : Console :=
  (console.record (.malformed defect text)).print (.prompt prompt)

/-- Reads lines until one is a number, at most as many as given. -/
def seekNumber (prompt : String) (target : Name) : Nat → Console → Option Int64 × Console
  | 0, console => (none, console.starve)
  | lines + 1, console =>
    match console.readLine? with
    | none => (none, console.starve)
    | some (line, console) =>
      match Numeral.signed (Text.trim line) with
      | .ok value => (some value, console.record (.read target value))
      | .error defect =>
        seekNumber prompt target lines (console.refuse prompt defect (Text.trim line))

/-- Reads the first line that is a number. There are no more lines than the size of the source. -/
def readNumber (prompt : String) (target : Name) (console : Console) : Option Int64 × Console :=
  seekNumber prompt target console.source.size console

theorem Console.size_of_readLine? {console after : Console} {line : String}
    (read : console.readLine? = some (line, after)) : after.source.size < console.source.size := by
  unfold Console.readLine? at read
  split at read
  · simp at read
  next found =>
    simp only [Option.some.injEq, Prod.mk.injEq] at read
    simpa [← read.2] using Source.size_of_next? found

theorem Console.readLine?_eq_none {console : Console} (empty : console.source.size = 0) :
    console.readLine? = none := by
  cases read : console.readLine? with
  | none => rfl
  | some result =>
    obtain ⟨line, after⟩ := result
    have := Console.size_of_readLine? read
    omega

/-- Two bounds that the size of the source does not exceed make no difference. -/
theorem seekNumber_congr (prompt : String) (target : Name) {m n : Nat} {console : Console}
    (enough : console.source.size ≤ m) (alsoEnough : console.source.size ≤ n) :
    seekNumber prompt target m console = seekNumber prompt target n console := by
  induction m generalizing n console with
  | zero =>
    have closed := Console.readLine?_eq_none (Nat.le_zero.mp enough)
    cases n <;> simp [seekNumber, closed]
  | succ m ih =>
    cases n with
    | zero =>
      have closed := Console.readLine?_eq_none (Nat.le_zero.mp alsoEnough)
      simp [seekNumber, closed]
    | succ n =>
      simp only [seekNumber]
      cases read : console.readLine? with
      | none => rfl
      | some result =>
        obtain ⟨line, after⟩ := result
        have smaller := Console.size_of_readLine? read
        cases known : Numeral.signed (Text.trim line) with
        | ok value => simp [known]
        | error defect =>
          simp only [known]
          exact ih (show after.source.size ≤ m by omega) (show after.source.size ≤ n by omega)

/-- Reading takes one line, and goes on if it is no number. -/
theorem readNumber_eq (prompt : String) (target : Name) (console : Console) :
    readNumber prompt target console =
      match console.readLine? with
      | none => (none, console.starve)
      | some (line, console) =>
        match Numeral.signed (Text.trim line) with
        | .ok value => (some value, console.record (.read target value))
        | .error defect =>
          readNumber prompt target (console.refuse prompt defect (Text.trim line)) := by
  have unfolded : readNumber prompt target console =
      seekNumber prompt target (console.source.size + 1) console :=
    seekNumber_congr prompt target (Nat.le_refl _) (Nat.le_succ _)
  rw [unfolded, seekNumber]
  cases read : console.readLine? with
  | none => rfl
  | some result =>
    obtain ⟨line, after⟩ := result
    have smaller := Console.size_of_readLine? read
    cases known : Numeral.signed (Text.trim line) with
    | ok value => simp [known]
    | error defect =>
      simp only [known]
      exact seekNumber_congr prompt target (show after.source.size ≤ _ by omega) (Nat.le_refl _)

end ImpLang
