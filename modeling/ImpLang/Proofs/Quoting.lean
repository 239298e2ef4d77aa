import ImpLang.Text.Printing

/-!
# Quoted text can be read back

The written form of a character ends by itself, so what is written of a text is taken apart again
character by character (`unescape?_escape`), and different texts are quoted differently. No quoted
text breaks its line.
-/

namespace ImpLang.Text.Quoted

/-- The value of a hexadecimal digit. -/
def hexDigit (c : Char) : Nat :=
  if c.isDigit then c.toNat - '0'.toNat else c.toNat - 'a'.toNat + 10

/-- The value of hexadecimal digits. -/
def hexValue (digits : List Char) : Nat :=
  digits.foldl (fun value c => 16 * value + hexDigit c) 0

theorem hexDigit_digitChar {d : Nat} (small : d < 16) : hexDigit (Nat.digitChar d) = d := by
  have all : ∀ d < 16, hexDigit (Nat.digitChar d) = d := by decide
  exact all d small

theorem hexValue_toDigits (n : Nat) : hexValue (Nat.toDigits 16 n) = n := by
  induction n using Nat.strongRecOn with
  | _ n ih =>
    by_cases small : n < 16
    · rw [Nat.toDigits_of_lt_base small]
      simp [hexValue, hexDigit_digitChar small]
    · have shorter := ih (n / 16) (by omega)
      unfold hexValue at shorter ⊢
      rw [Nat.toDigits_of_base_le (by decide) (by omega), List.foldl_append, shorter]
      have last : n % 16 < 16 := by omega
      simp only [List.foldl_cons, List.foldl_nil, hexDigit_digitChar last]
      omega

theorem mem_toDigits {n : Nat} {c : Char} (member : c ∈ Nat.toDigits 16 n) :
    ∃ d < 16, Nat.digitChar d = c := by
  induction n using Nat.strongRecOn with
  | _ n ih =>
    by_cases small : n < 16
    · rw [Nat.toDigits_of_lt_base small, List.mem_singleton] at member
      exact ⟨n, small, member.symm⟩
    · rw [Nat.toDigits_of_base_le (by decide) (by omega), List.mem_append, List.mem_singleton]
        at member
      rcases member with earlier | last
      · exact ih (n / 16) (by omega) earlier
      · exact ⟨n % 16, by omega, last.symm⟩

/-! ## Taking characters off -/

/-- The character that is written after a backslash, and what follows it. -/
def unescapeSign? : List Char → Option (Char × List Char)
  | '0' :: rest => some ('\x00', rest)
  | 't' :: rest => some ('\t', rest)
  | 'r' :: rest => some ('\r', rest)
  | 'n' :: rest => some ('\n', rest)
  | '"' :: rest => some ('"', rest)
  | '\\' :: rest => some ('\\', rest)
  | 'u' :: '\x7b' :: rest =>
    some (Char.ofNat (hexValue (rest.takeWhile (· != '\x7d'))),
      (rest.dropWhile (· != '\x7d')).drop 1)
  | _ => none

/-- The first character of a written text, and what follows it. -/
def unescape? : List Char → Option (Char × List Char)
  | [] => none
  | c :: rest => if c = '\\' then unescapeSign? rest else some (c, rest)

/-- What is written of a character is read as that character. -/
theorem unescape?_escape (c : Char) (rest : List Char) :
    unescape? (escape c ++ rest) = some (c, rest) := by
  unfold escape
  split
  iterate 6 rfl
  next _ _ _ _ _ backslash =>
    split
    · have plain : ¬ c = '\\' := backslash
      simp [unescape?, plain]
    · have digits : ∀ d ∈ Nat.toDigits 16 c.toNat, (d != '\x7d') = true := by
        intro c member
        obtain ⟨d, small, rfl⟩ := mem_toDigits member
        have all : ∀ d < 16, (Nat.digitChar d != '\x7d') = true := by decide
        exact all d small
      have taken : (Nat.toDigits 16 c.toNat ++ '\x7d' :: rest).takeWhile (· != '\x7d') =
          Nat.toDigits 16 c.toNat := by
        rw [List.takeWhile_append_of_pos digits]
        simp
      have dropped : (Nat.toDigits 16 c.toNat ++ '\x7d' :: rest).dropWhile (· != '\x7d') =
          '\x7d' :: rest := by
        rw [List.dropWhile_append_of_pos digits]
        simp
      simp [unescape?, unescapeSign?, taken, dropped, hexValue_toDigits]

theorem encode_cons (c : Char) (chars : List Char) :
    encode (c :: chars) = escape c ++ encode chars :=
  List.flatMap_cons

theorem encode_injective {chars others : List Char} (same : encode chars = encode others) :
    chars = others := by
  induction chars generalizing others with
  | nil =>
    cases others with
    | nil => rfl
    | cons d others =>
      have first := unescape?_escape d (encode others)
      rw [← encode_cons, ← same] at first
      cases first
  | cons c chars ih =>
    have first := unescape?_escape c (encode chars)
    rw [← encode_cons, same] at first
    cases others with
    | nil => cases first
    | cons d others =>
      rw [encode_cons, unescape?_escape, Option.some.injEq, Prod.mk.injEq] at first
      rw [first.1, ih first.2.symm]

/-- Different texts are quoted differently. -/
theorem quote_injective {text other : String} (same : quote text = quote other) : text = other := by
  have chars := congrArg String.toList same
  simp only [quote, String.toList_ofList, List.cons_append, List.nil_append, List.cons.injEq,
    true_and, List.append_cancel_right_eq] at chars
  exact String.toList_inj.mp (encode_injective chars)

theorem newline_notMem_escape (c : Char) : '\n' ∉ escape c := by
  unfold escape
  split
  iterate 6 decide
  next _ _ _ newline _ _ =>
    split
    · simpa [eq_comm] using newline
    · intro member
      have digit : '\n' ∈ Nat.toDigits 16 c.toNat := by simpa using member
      obtain ⟨d, small, same⟩ := mem_toDigits digit
      have all : ∀ d < 16, Nat.digitChar d ≠ '\n' := by decide
      exact all d small same

/-- A quoted text is on one line. -/
theorem newline_notMem_quote (text : String) : '\n' ∉ (quote text).toList := by
  intro member
  have inside : '\n' ∈ encode text.toList := by simpa [quote] using member
  obtain ⟨c, _, escaped⟩ := List.mem_flatMap.mp inside
  exact newline_notMem_escape c escaped

end ImpLang.Text.Quoted
