import ImpLang.Text.Utf8

/-!
# Input

A program reads its input by the line, either from a list of lines given beforehand or from a stream
of bytes. A stream is cut after each newline, its last line may lack one, and each line is decoded
when it is read. A line of a stream keeps its newline. A stream may also break off with a failure:
what stands between its last newline and the failure is then no line, and every read that comes to
it fails.
-/

namespace ImpLang

inductive Source where
  | script (lines : List String)
  /-- Bytes still to be cut into lines, and why no more can be read after them, if that is a
  failure. -/
  | stream (bytes : List UInt8) (failure : Option String := none)
  deriving DecidableEq, Repr

namespace Source

def newline : UInt8 := 10

/-- The first line of some bytes, with its newline, and the bytes after it. -/
def cutLine (bytes : List UInt8) : List UInt8 × List UInt8 :=
  match bytes.dropWhile (· != newline) with
  | [] => (bytes, [])
  | _ :: rest => (bytes.takeWhile (· != newline) ++ [newline], rest)

/-- The next line and the source after it, or nothing at the end of the input. -/
def next? : Source → Option (String × Source)
  | .script [] => none
  | .script (line :: rest) => some (line, .script rest)
  | .stream [] _ => none
  | .stream (byte :: bytes) failure =>
    if failure.isSome ∧ newline ∉ byte :: bytes then none
    else
      let (line, rest) := cutLine (byte :: bytes)
      some (Text.Utf8.decode line, .stream rest failure)

/-- Why no line can be read once there is none left, if that is a failure. -/
def failure? : Source → Option String
  | .script _ => none
  | .stream _ failure => failure

/-- A bound on the number of lines to come. -/
def size : Source → Nat
  | .script lines => lines.length
  | .stream bytes _ => bytes.length

/-- The number of lines left in a script. The lines of a stream are not known beforehand and count
as none. -/
def remaining : Source → Nat
  | .script lines => lines.length
  | .stream .. => 0

def unreadBytes : Source → Nat
  | .script _ => 0
  | .stream bytes _ => bytes.length

theorem cutLine_append (bytes : List UInt8) :
    (cutLine bytes).1 ++ (cutLine bytes).2 = bytes := by
  have whole := @List.takeWhile_append_dropWhile _ (· != newline) bytes
  unfold cutLine
  split
  · simp
  next byte rest found =>
    have stop : byte = newline := by
      have head := List.head?_dropWhile_not (· != newline) bytes
      simpa [found] using head
    simp only [found, stop] at whole
    simpa using whole

/-- A line read from a stream is cut off its bytes, which are not all gone before. -/
theorem cut_of_next? {bytes : List UInt8} {failure : Option String} {line : String} {rest : Source}
    (read : (Source.stream bytes failure).next? = some (line, rest)) :
    bytes ≠ [] ∧ line = Text.Utf8.decode (cutLine bytes).1 ∧
      rest = .stream (cutLine bytes).2 failure := by
  cases bytes with
  | nil => simp [next?] at read
  | cons byte others =>
    rw [next?] at read
    split at read
    · simp at read
    · simp only [Option.some.injEq, Prod.mk.injEq] at read
      exact ⟨List.cons_ne_nil _ _, read.1.symm, read.2.symm⟩

theorem size_of_next? {source rest : Source} {line : String}
    (read : source.next? = some (line, rest)) : rest.size < source.size := by
  cases source with
  | script lines =>
    cases lines with
    | nil => simp [next?] at read
    | cons first others =>
      simp only [next?, Option.some.injEq, Prod.mk.injEq] at read
      simp [← read.2, size]
  | stream bytes failure =>
    obtain ⟨some, -, rfl⟩ := cut_of_next? read
    have whole := congrArg List.length (cutLine_append bytes)
    have nonempty : (cutLine bytes).1 ≠ [] := by
      unfold cutLine
      split
      · exact some
      · simp
    have positive := List.length_pos_iff.mpr nonempty
    simp only [List.length_append] at whole
    simp only [size]
    omega

end Source

end ImpLang
