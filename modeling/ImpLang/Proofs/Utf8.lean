import ImpLang.Text.Utf8
import Mathlib.Logic.Basic

/-!
# Decoding and valid UTF-8

A character has one, two, three or four bytes (`Sequence`), and these are the bytes that encoding
gives it (`Sequence.utf8EncodeChar_eq`). Where bytes are not valid the decoder leaves a mark: a text
without the replacement character has the bytes it was decoded from (`encode_decode`), so one
decoded from bytes that are no characters has that character in it (`replacement_mem_decode`).
-/

namespace ImpLang.Text.Utf8

/-- The bytes of some characters. -/
def encode (chars : List Char) : List UInt8 :=
  chars.flatMap String.utf8EncodeChar

@[simp] theorem encode_append (chars chars' : List Char) :
    encode (chars ++ chars') = encode chars ++ encode chars' :=
  List.flatMap_append

@[simp] theorem encode_singleton (c : Char) : encode [c] = String.utf8EncodeChar c :=
  List.flatMap_singleton _ _

/-! ## The bytes of a character -/

/-- A byte that is not the first of its character. -/
def Continues (byte : UInt8) : Prop :=
  0x80 ≤ byte.toNat ∧ byte.toNat ≤ 0xbf

/-- The bytes of one character, with its code point. -/
inductive Sequence : List UInt8 → Nat → Prop
  | one {first : UInt8} (lead : first.toNat < 0x80) : Sequence [first] first.toNat
  | two {first second : UInt8} (lead : 0xc2 ≤ first.toNat ∧ first.toNat < 0xe0)
      (secondContinues : Continues second) :
      Sequence [first, second] (first.toNat % 32 * 64 + second.toNat % 64)
  | three {first second third : UInt8} (lead : 0xe0 ≤ first.toNat ∧ first.toNat < 0xf0)
      (secondContinues : Continues second) (thirdContinues : Continues third)
      (notOverlong : first.toNat = 0xe0 → 0xa0 ≤ second.toNat)
      (notSurrogate : first.toNat = 0xed → second.toNat ≤ 0x9f) :
      Sequence [first, second, third]
        ((first.toNat % 16 * 64 + second.toNat % 64) * 64 + third.toNat % 64)
  | four {first second third fourth : UInt8} (lead : 0xf0 ≤ first.toNat ∧ first.toNat < 0xf5)
      (secondContinues : Continues second) (thirdContinues : Continues third)
      (fourthContinues : Continues fourth)
      (notOverlong : first.toNat = 0xf0 → 0x90 ≤ second.toNat)
      (notAbove : first.toNat = 0xf4 → second.toNat ≤ 0x8f) :
      Sequence [first, second, third, fourth]
        (((first.toNat % 8 * 64 + second.toNat % 64) * 64 + third.toNat % 64) * 64 +
          fourth.toNat % 64)

theorem toNat_ofNat_of_isValidChar {value : Nat} (valid : value.isValidChar) :
    (Char.ofNat value).toNat = value := by
  rw [Char.ofNat, dif_pos valid]
  rfl

theorem Sequence.isValidChar {bytes : List UInt8} {value : Nat}
    (sequence : Sequence bytes value) : value.isValidChar := by
  unfold Nat.isValidChar
  cases sequence with
  | one lead => omega
  | two lead second => omega
  | three lead second third overlong surrogate =>
    simp only [Continues] at *
    omega
  | four lead second third fourth overlong above =>
    simp only [Continues] at *
    omega

/-- The bytes of a character are those that encoding gives it. -/
theorem Sequence.utf8EncodeChar_eq {bytes : List UInt8} {value : Nat}
    (sequence : Sequence bytes value) : String.utf8EncodeChar (Char.ofNat value) = bytes := by
  have known := toNat_ofNat_of_isValidChar sequence.isValidChar
  simp only [String.utf8EncodeChar, Char.toNat_val, known]
  cases sequence with
  | one lead => rw [if_pos (by omega), UInt8.ofNat_toNat]
  | two lead second =>
    simp only [Continues] at second
    rw [if_neg (by omega), if_pos (by omega)]
    simp only [List.cons.injEq, ← UInt8.toNat_inj, UInt8.toNat_ofNat', and_true]
    omega
  | three lead second third overlong surrogate =>
    simp only [Continues] at second third
    rw [if_neg (by omega), if_neg (by omega), if_pos (by omega)]
    simp only [List.cons.injEq, ← UInt8.toNat_inj, UInt8.toNat_ofNat', and_true]
    omega
  | four lead second third fourth overlong above =>
    simp only [Continues] at second third fourth
    rw [if_neg (by omega), if_neg (by omega), if_neg (by omega)]
    simp only [List.cons.injEq, ← UInt8.toNat_inj, UInt8.toNat_ofNat', and_true]
    omega

theorem continues_iff {byte : UInt8} : Continues byte ↔ 0x80 ≤ byte ∧ byte ≤ 0xbf := by
  simp [Continues, UInt8.le_iff_toNat_le]

/-- The range of a second byte, which is narrower at one end after certain first bytes. -/
theorem within_iff {first second tight lowest capped greatest : UInt8}
    (atLeast : 0x80 ≤ lowest.toNat) (atMost : greatest.toNat ≤ 0xbf) :
    (if first = tight then lowest else 0x80) ≤ second ∧
        second ≤ (if first = capped then greatest else 0xbf) ↔
      Continues second ∧ (first.toNat = tight.toNat → lowest.toNat ≤ second.toNat) ∧
        (first.toNat = capped.toNat → second.toNat ≤ greatest.toNat) := by
  simp only [UInt8.le_iff_toNat_le, apply_ite UInt8.toNat, UInt8.reduceToNat, UInt8.toNat_inj,
    Continues]
  grind

/-! ## One byte -/

namespace Decoder

variable {text : String} {byte : UInt8}

theorem first_one (lead : byte.toNat < 0x80) :
    first text byte = ⟨text.push (Char.ofNat byte.toNat), none⟩ := by
  simp only [first, UInt8.lt_iff_toNat_lt, UInt8.reduceToNat]
  rw [if_pos lead]

theorem first_two (lead : 0xc2 ≤ byte.toNat ∧ byte.toNat < 0xe0) :
    first text byte = ⟨text, some ⟨0x80, 0xbf, 0, byte.toNat % 32⟩⟩ := by
  simp only [first, UInt8.lt_iff_toNat_lt, UInt8.reduceToNat]
  rw [if_neg (by omega), if_neg (by omega), if_pos lead.2]

theorem first_three (lead : 0xe0 ≤ byte.toNat ∧ byte.toNat < 0xf0) :
    first text byte = ⟨text, some ⟨if byte = 0xe0 then 0xa0 else 0x80,
      if byte = 0xed then 0x9f else 0xbf, 1, byte.toNat % 16⟩⟩ := by
  simp only [first, UInt8.lt_iff_toNat_lt, UInt8.reduceToNat]
  rw [if_neg (by omega), if_neg (by omega), if_neg (by omega), if_pos lead.2]

theorem first_four (lead : 0xf0 ≤ byte.toNat ∧ byte.toNat < 0xf5) :
    first text byte = ⟨text, some ⟨if byte = 0xf0 then 0x90 else 0x80,
      if byte = 0xf4 then 0x8f else 0xbf, 2, byte.toNat % 8⟩⟩ := by
  simp only [first, UInt8.lt_iff_toNat_lt, UInt8.reduceToNat]
  rw [if_neg (by omega), if_neg (by omega), if_neg (by omega), if_neg (by omega), if_pos lead.2]

theorem first_none (lead : 0x80 ≤ byte.toNat ∧ byte.toNat < 0xc2 ∨ 0xf5 ≤ byte.toNat) :
    first text byte = ⟨text.push replacement, none⟩ := by
  simp only [first, UInt8.lt_iff_toNat_lt, UInt8.reduceToNat]
  rw [if_neg (by omega)]
  by_cases low : byte.toNat < 0xc2
  · rw [if_pos low]
  · rw [if_neg low, if_neg (by omega), if_neg (by omega), if_neg (by omega)]

variable {low high : UInt8} {more bits : Nat}

theorem read_last (within : low ≤ byte ∧ byte ≤ high) :
    read ⟨text, some ⟨low, high, 0, bits⟩⟩ byte =
      ⟨text.push (Char.ofNat (bits * 64 + byte.toNat % 64)), none⟩ := by
  simp only [read, if_pos within]

theorem read_more (within : low ≤ byte ∧ byte ≤ high) :
    read ⟨text, some ⟨low, high, more + 1, bits⟩⟩ byte =
      ⟨text, some ⟨0x80, 0xbf, more, bits * 64 + byte.toNat % 64⟩⟩ := by
  simp only [read, if_pos within]

end Decoder

/-! ## Bytes that are no characters -/

/-- However the character under way goes on, its bytes are those read and those to come. -/
inductive Pending.Completes : List UInt8 → Pending → Prop
  | last {start : List UInt8} {low high : UInt8} {bits : Nat}
      (whole : ∀ byte, low ≤ byte ∧ byte ≤ high →
        Sequence (start ++ [byte]) (bits * 64 + byte.toNat % 64)) :
      Completes start ⟨low, high, 0, bits⟩
  | more {start : List UInt8} {low high : UInt8} {more bits : Nat}
      (next : ∀ byte, low ≤ byte ∧ byte ≤ high →
        Completes (start ++ [byte]) ⟨0x80, 0xbf, more, bits * 64 + byte.toNat % 64⟩) :
      Completes start ⟨low, high, more + 1, bits⟩

namespace Decoder

/-- The bytes read are those of the text and of the character under way. -/
def Accounts (decoder : Decoder) (bytes : List UInt8) : Prop :=
  match decoder.pending with
  | none => bytes = encode decoder.text.toList
  | some pending =>
    ∃ start, bytes = encode decoder.text.toList ++ start ∧ pending.Completes start

variable {text : String} {byte : UInt8} {bytes : List UInt8}

/-- Whatever byte comes first, it begins a character or is marked as lost. -/
theorem first_accounts (text : String) (byte : UInt8) :
    (first text byte).Accounts (encode text.toList ++ [byte]) ∨
      replacement ∈ (first text byte).text.toList := by
  by_cases one : byte.toNat < 0x80
  · left
    simp [first_one one, Accounts, (Sequence.one one).utf8EncodeChar_eq]
  by_cases two : 0xc2 ≤ byte.toNat ∧ byte.toNat < 0xe0
  · rw [first_two two]
    refine Or.inl ⟨[byte], rfl, .last fun second inRange => ?_⟩
    exact .two two (continues_iff.mpr inRange)
  by_cases three : 0xe0 ≤ byte.toNat ∧ byte.toNat < 0xf0
  · rw [first_three three]
    refine Or.inl ⟨[byte], rfl, .more fun second inRange => .last fun third inRange' => ?_⟩
    obtain ⟨continues, overlong, surrogate⟩ := (within_iff (by decide) (by decide)).mp inRange
    exact .three three continues (continues_iff.mpr inRange') overlong surrogate
  by_cases four : 0xf0 ≤ byte.toNat ∧ byte.toNat < 0xf5
  · rw [first_four four]
    refine Or.inl ⟨[byte], rfl, .more fun second inRange => .more fun third inRange' => ?_⟩
    refine .last fun fourth inRange'' => ?_
    obtain ⟨continues, overlong, above⟩ := (within_iff (by decide) (by decide)).mp inRange
    exact .four four continues (continues_iff.mpr inRange') (continues_iff.mpr inRange'')
      overlong above
  · right
    rw [first_none (by omega)]
    simp

/-- A character of the text stays in it. -/
theorem first_keeps {c : Char} (member : c ∈ text.toList) :
    c ∈ (first text byte).text.toList := by
  unfold first
  repeat' split
  all_goals simp [member]

theorem read_keeps {decoder : Decoder} {c : Char} (member : c ∈ decoder.text.toList) :
    c ∈ (decoder.read byte).text.toList := by
  unfold read
  split
  · exact first_keeps member
  split
  · split <;> simp [member]
  · exact first_keeps (by simp [member])

theorem read_accounts {decoder : Decoder} (accounts : decoder.Accounts bytes) :
    (decoder.read byte).Accounts (bytes ++ [byte]) ∨
      replacement ∈ (decoder.read byte).text.toList := by
  obtain ⟨text, pending⟩ := decoder
  cases pending with
  | none =>
    cases accounts
    exact first_accounts text byte
  | some pending =>
    obtain ⟨start, rfl, completes⟩ := accounts
    by_cases within : pending.low ≤ byte ∧ byte ≤ pending.high
    · left
      cases completes with
      | last whole =>
        rw [read_last within]
        simp [Accounts, (whole byte within).utf8EncodeChar_eq]
      | more next =>
        rw [read_more within]
        exact ⟨start ++ [byte], List.append_assoc .., next byte within⟩
    · -- The character under way is lost and marked, whatever this byte begins.
      right
      simp only [read, if_neg within]
      exact first_keeps (by simp)

theorem foldl_read_accounts {decoder : Decoder} (more : List UInt8)
    (accounts : decoder.Accounts bytes ∨ replacement ∈ decoder.text.toList) :
    (more.foldl read decoder).Accounts (bytes ++ more) ∨
      replacement ∈ (more.foldl read decoder).text.toList := by
  induction more generalizing decoder bytes with
  | nil => simpa using accounts
  | cons byte more ih =>
    rw [List.append_cons]
    exact ih (accounts.elim read_accounts fun member => Or.inr (read_keeps member))

end Decoder

/-- A text without replacements has the bytes it was decoded from. -/
theorem encode_decode {bytes : List UInt8} (clean : replacement ∉ (decode bytes).toList) :
    encode (decode bytes).toList = bytes := by
  have start : ({} : Decoder).Accounts [] := rfl
  have accounts := Decoder.foldl_read_accounts bytes (Or.inl start)
  unfold decode Decoder.finish at clean ⊢
  split at clean
  next finished =>
    cases accounts with
    | inl accounts =>
      simp only [Decoder.Accounts, finished] at accounts
      exact accounts.symm
    | inr member => exact absurd member clean
  next pending unfinished => simp at clean

theorem replacement_mem_decode {bytes : List UInt8}
    (invalid : ¬ bytes.toByteArray.IsValidUTF8) : replacement ∈ (decode bytes).toList := by
  apply Classical.byContradiction
  intro clean
  exact invalid ⟨(decode bytes).toList, by rw [List.utf8Encode, ← encode, encode_decode clean]⟩

end ImpLang.Text.Utf8
