import ImpLang.Proofs.Mirror
import ImpLang.Proofs.Utf8

/-!
# Streams and scripts

A stream is read like the script of its decoded pieces. Its bytes are cut after each newline
(`Source.pieces`), one piece for each line read, and what is left at any time is the rest of the
pieces. So a program does the same on both, whatever bytes come (`Program.run_stream_eq_script`). A
piece that is not valid is no number: decoding marks it with a character that is neither white space
nor part of a numeral.
-/

namespace ImpLang

open Text (Utf8.decode)

namespace Source

/-- Bytes cut after each newline. What stands after the last newline is a piece if it is not
empty. -/
def pieces : List UInt8 → List (List UInt8)
  | [] => []
  | byte :: bytes =>
    if byte = newline then [byte] :: pieces bytes
    else
      match pieces bytes with
      | [] => [[byte]]
      | piece :: rest => (byte :: piece) :: rest

/-- Cutting loses no byte and adds none. -/
@[simp] theorem pieces_flatten (bytes : List UInt8) : (pieces bytes).flatten = bytes := by
  induction bytes with
  | nil => rfl
  | cons byte bytes ih =>
    unfold pieces
    split
    · simp [ih]
    · split
      next none =>
        rw [none] at ih
        simp [← ih]
      next piece rest some =>
        rw [some] at ih
        simp [← ih]

theorem cutLine_newline (bytes : List UInt8) : cutLine (newline :: bytes) = ([newline], bytes) := by
  simp [cutLine]

theorem cutLine_cons {byte : UInt8} (goesOn : byte ≠ newline) (bytes : List UInt8) :
    cutLine (byte :: bytes) = (byte :: (cutLine bytes).1, (cutLine bytes).2) := by
  have skipped : (byte != newline) = true := by simpa using goesOn
  simp only [cutLine, List.dropWhile_cons, List.takeWhile_cons, skipped, if_true]
  split <;> rfl

/-- The first piece is the first line, and the other pieces are those of the bytes after it. -/
theorem pieces_cons (byte : UInt8) (bytes : List UInt8) :
    pieces (byte :: bytes) =
      (cutLine (byte :: bytes)).1 :: pieces (cutLine (byte :: bytes)).2 := by
  induction bytes generalizing byte with
  | nil =>
    by_cases ends : byte = newline
    · simp [pieces, ends, cutLine_newline]
    · simp [pieces, ends, cutLine]
  | cons next bytes ih =>
    by_cases ends : byte = newline
    · rw [ends, pieces, if_pos rfl, cutLine_newline]
    · rw [pieces, if_neg ends, ih, cutLine_cons ends]

/-- The bytes of the last pieces are cut into these pieces. -/
theorem pieces_suffix {bytes : List UInt8} {consumed left : List (List UInt8)}
    (whole : pieces bytes = consumed ++ left) : pieces left.flatten = left := by
  induction consumed generalizing bytes with
  | nil => rw [← show pieces bytes = left from whole, pieces_flatten]
  | cons piece consumed ih =>
    cases bytes with
    | nil => cases whole
    | cons byte bytes =>
      rw [pieces_cons, List.cons_append, List.cons.injEq] at whole
      exact ih whole.2

/-- Reading from a stream takes its first piece. -/
theorem next?_stream (bytes : List UInt8) :
    (stream bytes).next? =
      match pieces bytes with
      | [] => none
      | piece :: rest => some (Utf8.decode piece, .stream rest.flatten) := by
  cases bytes with
  | nil => rfl
  | cons byte bytes =>
    rw [pieces_cons]
    simp [next?]

end Source

/-! ## The same run on both -/

namespace Console

/-- The first console has a stream of which some pieces are left, and the second has these pieces,
decoded, as its script. -/
def Decoded (bytes : List UInt8) : Console → Console → Prop :=
  BySource fun source source' => ∃ consumed left, Source.pieces bytes = consumed ++ left ∧
    source = .stream left.flatten ∧ source' = .script (left.map Utf8.decode)

theorem decoded_mirror (prompt : String) (bytes : List UInt8) :
    Mirror prompt prompt (Decoded bytes) fun _ _ _ => False := by
  refine .bySource prompt ?_
  rintro console _ ⟨consumed, left, whole, given, rfl⟩
  have taken := Source.next?_stream left.flatten
  rw [← given, Source.pieces_suffix whole] at taken
  cases left with
  | nil =>
    refine .closed taken rfl ?_
    rw [starve_of_unfailing (by rw [given]; rfl), starve_of_unfailing rfl]
    exact ⟨_, ⟨consumed, [], whole, given, rfl⟩, rfl⟩
  | cons piece rest =>
    exact .line taken rfl ⟨_, ⟨consumed ++ [piece], rest, by simp [whole], rfl, rfl⟩, rfl⟩

end Console

/-! ## Pieces that are not valid -/

/-- Bytes that are no characters are not the numeral of a number. -/
theorem Numeral.signed_of_invalid {piece : List UInt8}
    (invalid : ¬ piece.toByteArray.IsValidUTF8) :
    ∃ defect, Numeral.signed (Text.trim (Utf8.decode piece)) = .error defect := by
  cases number : Numeral.signed (Text.trim (Utf8.decode piece)) with
  | error defect => exact ⟨defect, rfl⟩
  | ok n =>
    have marked : Text.Utf8.replacement ∈ (Text.trim (Utf8.decode piece)).toList :=
      Text.mem_trim (Text.Utf8.replacement_mem_decode invalid) (by decide)
    have allowed := Numeral.mem_of_signed number _ marked
    exact absurd allowed (by decide)

/-- A read refuses a piece that is not valid, and goes on behind it. -/
theorem Stmt.exec_readNum_of_invalid (settings : Settings) (fuel : Nat) (target : Name)
    (store : Store) (console : Console) {bytes piece : List UInt8}
    {consumed left : List (List UInt8)} (whole : Source.pieces bytes = consumed ++ piece :: left)
    (invalid : ¬ piece.toByteArray.IsValidUTF8)
    (given : console.source = .stream (piece :: left).flatten) :
    ∃ defect, (Stmt.readNum target).exec settings fuel store console =
      (Stmt.readNum target).exec settings fuel store
        ({ console with source := .stream left.flatten }.refuse settings.prompt defect
          (Text.trim (Utf8.decode piece))) := by
  obtain ⟨defect, defective⟩ := Numeral.signed_of_invalid invalid
  refine ⟨defect, ?_⟩
  rw [exec_readNum, given, Source.next?_stream, Source.pieces_suffix whole]
  simp only [defective]

namespace Program

/-- A program does the same on a stream of bytes and on the script of its decoded pieces: it has the
same result, output and events, or diverges on both. The bytes that are left are those of the pieces
that are left, and all pieces together are the bytes. A read that comes to a piece that is not valid
refuses it with one prompt and goes on behind it. -/
theorem run_stream_eq_script (settings : Settings) (program : Program) (console : Console)
    (bytes : List UInt8) :
    ((program.Diverges settings { console with source := .stream bytes } ∧
        program.Diverges settings
          { console with source := .script ((Source.pieces bytes).map Utf8.decode) }) ∨
      ∃ consumed left result, ∃ after : Console, Source.pieces bytes = consumed ++ left ∧
        program.EndsIn settings { console with source := .stream bytes }
          (.ofResult { after with source := .stream left.flatten } result) ∧
        program.EndsIn settings
          { console with source := .script ((Source.pieces bytes).map Utf8.decode) }
          (.ofResult { after with source := .script (left.map Utf8.decode) } result)) ∧
    (Source.pieces bytes).flatten = bytes ∧
    ∀ consumed piece left, Source.pieces bytes = consumed ++ piece :: left →
      ¬ piece.toByteArray.IsValidUTF8 →
      ∀ (fuel : Nat) (target : Name) (store : Store) (before : Console),
        before.source = .stream (piece :: left).flatten →
        ∃ defect, (Stmt.readNum target).exec settings fuel store before =
          (Stmt.readNum target).exec settings fuel store
            { before with
              source := .stream left.flatten
              printed := before.printed.push (.prompt settings.prompt)
              events := before.events.push
                  (.malformed defect (Text.trim (Utf8.decode piece))) ++
                (before.sink.complaint before.printed.size).toArray } := by
  refine ⟨?_, Source.pieces_flatten bytes, ?_⟩
  · have start : Console.Decoded bytes { console with source := .stream bytes }
        { console with source := .script ((Source.pieces bytes).map Utf8.decode) } :=
      ⟨_, ⟨[], Source.pieces bytes, rfl, by rw [Source.pieces_flatten], rfl⟩, rfl⟩
    refine (mirrored (Console.decoded_mirror settings.prompt bytes) settings.maxIterations program
      start).imp_right ?_
    rintro ⟨result, after, _, ⟨_, ⟨consumed, left, whole, given, rfl⟩, rfl⟩, onStream, onScript⟩
    refine ⟨consumed, left, result, after, whole, ?_, onScript⟩
    rw [← given]
    exact onStream
  · intro consumed piece left whole invalid fuel target store before given
    exact Stmt.exec_readNum_of_invalid settings fuel target store before whole invalid given

/-- A stream whose first line is garbled and whose last has no newline. -/
theorem run_stream_eq_script_garbled : ∃ (program : Program) (bytes : List UInt8) (start : Console),
    program = ⟨"echo", [⟨"n"⟩], .seq (.readNum ⟨"n"⟩) (.writeNum (.named "n"))⟩ ∧
    bytes = [0xff, 0xfe, 10, 53, 10, 54] ∧ start = { source := .stream bytes, sink := .buffer } ∧
    (∃ consumed left result, ∃ after : Console,
      [[0xff, 0xfe, 10], [53, 10], [54]] = consumed ++ left ∧
      program.EndsIn {} start (.ofResult { after with source := .stream left.flatten } result) ∧
      program.EndsIn {} { start with source := .script ["\ufffd\ufffd\n", "5\n", "6"] }
        (.ofResult { after with source := .script (left.map Utf8.decode) } result)) ∧
    ∃ defect, (Stmt.readNum ⟨"n"⟩).exec {} 0 .empty start =
      (Stmt.readNum ⟨"n"⟩).exec {} 0 .empty
        { start with
          source := .stream [53, 10, 54]
          printed := #[.prompt defaultPrompt]
          events := #[.malformed defect "\ufffd\ufffd"] } := by
  obtain ⟨program, known⟩ : ∃ program : Program, program =
      ⟨"echo", [⟨"n"⟩], .seq (.readNum ⟨"n"⟩) (.writeNum (.named "n"))⟩ := ⟨_, rfl⟩
  obtain ⟨bytes, sent⟩ : ∃ bytes : List UInt8, bytes = [0xff, 0xfe, 10, 53, 10, 54] := ⟨_, rfl⟩
  have cut : Source.pieces bytes = [[0xff, 0xfe, 10], [53, 10], [54]] := by
    rw [sent]
    decide
  have decoded : [[0xff, 0xfe, 10], [53, 10], [54]].map Utf8.decode =
      ["\ufffd\ufffd\n", "5\n", "6"] := by decide +kernel
  have ends : ¬ program.Diverges {} { source := .stream bytes, sink := .buffer } := by
    intro diverges
    have starved := diverges 0
    rw [known, sent] at starved
    revert starved
    decide +kernel
  obtain ⟨same, _, refuses⟩ :=
    run_stream_eq_script {} program { source := .stream bytes, sink := .buffer } bytes
  rw [cut, decoded] at same
  refine ⟨program, bytes, _, known, sent, rfl, same.resolve_left fun both => ends both.1, ?_⟩
  have invalid : ¬ ([0xff, 0xfe, 10] : List UInt8).toByteArray.IsValidUTF8 := by decide +kernel
  obtain ⟨defect, refused⟩ := refuses [] _ _ cut invalid 0 ⟨"n"⟩ .empty
    { source := .stream bytes, sink := .buffer } (by rw [sent]; rfl)
  have trimmed : Text.trim (Utf8.decode [0xff, 0xfe, 10]) = "\ufffd\ufffd" := by decide +kernel
  rw [trimmed] at refused
  exact ⟨defect, refused⟩

end Program

end ImpLang
