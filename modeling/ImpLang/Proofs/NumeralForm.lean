import ImpLang.Proofs.ExactValue

/-!
# The form of numerals

A numeral is one or more digits after one sign or none, with any number of leading zeros, and its
value is positional (`Numeral.Denotes`). The scan that reads it, which watches the limit at every
digit, accepts exactly the numerals whose value is within the limit: appending digits never makes a
value smaller, so what has grown too large on the way is too large in the end. A number without sign
has no minus sign in front (`Numeral.Counts`).
-/

namespace ImpLang.Numeral

/-- One or more digits. -/
def IsDigits (chars : List Char) : Prop :=
  chars ≠ [] ∧ ∀ c ∈ chars, c.isDigit = true

/-- The number that digits stand for, the highest first. -/
def positional (digits : List Char) : Nat :=
  Nat.ofDigitChars 10 digits 0

/-- `Denotes chars n`: the characters are digits after one sign or none, and stand for `n`. -/
inductive Denotes : List Char → Int → Prop
  | plain {digits : List Char} (areDigits : IsDigits digits) : Denotes digits (positional digits)
  | plus {digits : List Char} (areDigits : IsDigits digits) :
      Denotes ('+' :: digits) (positional digits)
  | minus {digits : List Char} (areDigits : IsDigits digits) :
      Denotes ('-' :: digits) (-positional digits)

/-! ## Digits within a limit -/

variable {limit value n : Nat} {overflow : Defect} {chars : List Char}

theorem scan_eq_ok_iff (start : value ≤ limit) :
    scan limit overflow value chars = .ok n ↔
      (∀ c ∈ chars, c.isDigit = true) ∧ n = Nat.ofDigitChars 10 chars value ∧ n ≤ limit := by
  constructor
  · intro scanned
    have areDigits := isDigit_of_scan scanned
    refine ⟨areDigits, ?_⟩
    induction chars generalizing value with
    | nil =>
      cases scanned
      exact ⟨rfl, start⟩
    | cons c rest ih =>
      simp only [List.forall_mem_cons] at areDigits
      simp only [scan, digit?, areDigits.1, if_true] at scanned
      split at scanned
      next fits =>
        rw [Nat.ofDigitChars_cons]
        exact ih fits scanned areDigits.2
      next => cases scanned
  · rintro ⟨areDigits, rfl, within⟩
    exact scan_eq_ok areDigits within

/-- A magnitude is read exactly from digits whose value is within the limit. -/
theorem magnitude_eq_ok_iff :
    magnitude limit overflow chars = .ok n ↔
      IsDigits chars ∧ n = positional chars ∧ n ≤ limit := by
  cases chars with
  | nil => simp [magnitude, IsDigits]
  | cons c rest =>
    rw [magnitude, scan_eq_ok_iff (Nat.zero_le limit), IsDigits, positional]
    · simp
    · simp

/-! ## Signs -/

theorem IsDigits.not_sign {sign : Char} (areDigits : IsDigits (sign :: chars))
    (isSign : sign = '+' ∨ sign = '-') : False := by
  have digit := areDigits.2 sign (by simp)
  rcases isSign with rfl | rfl <;> exact absurd digit (by decide)

theorem denotes_plus_iff {z : Int} :
    Denotes ('+' :: chars) z ↔ IsDigits chars ∧ z = positional chars := by
  constructor
  · intro denotes
    cases denotes with
    | plain areDigits => exact (areDigits.not_sign (Or.inl rfl)).elim
    | plus areDigits => exact ⟨areDigits, rfl⟩
  · rintro ⟨areDigits, rfl⟩
    exact .plus areDigits

theorem denotes_minus_iff {z : Int} :
    Denotes ('-' :: chars) z ↔ IsDigits chars ∧ z = -positional chars := by
  constructor
  · intro denotes
    cases denotes with
    | plain areDigits => exact (areDigits.not_sign (Or.inr rfl)).elim
    | minus areDigits => exact ⟨areDigits, rfl⟩
  · rintro ⟨areDigits, rfl⟩
    exact .minus areDigits

theorem denotes_plain_iff {z : Int} (noPlus : ∀ rest, chars ≠ '+' :: rest)
    (noMinus : ∀ rest, chars ≠ '-' :: rest) :
    Denotes chars z ↔ IsDigits chars ∧ z = positional chars := by
  constructor
  · intro denotes
    cases denotes with
    | plain areDigits => exact ⟨areDigits, rfl⟩
    | plus => exact absurd rfl (noPlus _)
    | minus => exact absurd rfl (noMinus _)
  · rintro ⟨areDigits, rfl⟩
    exact .plain areDigits

/-- Digits after a sign are read as the number of 64 bits that they stand for, if there is one. The
limit is the greatest magnitude that fits behind the sign. -/
theorem map_magnitude_eq_ok_iff {signum : Nat → Int} {m : Int64}
    (fits : ∀ n, Fits (signum n) ↔ n ≤ limit) :
    (magnitude limit overflow chars).map (fun n => Int64.ofInt (signum n)) = .ok m ↔
      IsDigits chars ∧ m.toInt = signum (positional chars) := by
  cases read : magnitude limit overflow chars with
  | ok n =>
    obtain ⟨areDigits, rfl, within⟩ := magnitude_eq_ok_iff.mp read
    have held := toInt_ofInt_of_fits ((fits (positional chars)).mpr within)
    simp only [Except.map, Except.ok.injEq, areDigits, true_and]
    rw [← Int64.toInt_inj, held, eq_comm]
  | error defect =>
    simp only [Except.map, reduceCtorEq, false_iff]
    rintro ⟨areDigits, same⟩
    have within : positional chars ≤ limit := (fits _).mp (same ▸ fits_toInt m)
    rw [magnitude_eq_ok_iff.mpr ⟨areDigits, rfl, within⟩] at read
    cases read

theorem fits_natCast_iff (n : Nat) : Fits n ↔ n ≤ signedMax := by
  simp only [Fits, signedMax]
  omega

theorem fits_neg_iff (n : Nat) : Fits (-n) ↔ n ≤ signedMin := by
  simp only [Fits, signedMin]
  omega

/-- Exactly the numerals of the numbers of 64 bits are read, each as its number. -/
theorem signed_eq_ok_iff {text : String} {m : Int64} :
    signed text = .ok m ↔ Denotes text.toList m.toInt := by
  unfold signed
  split
  next none =>
    have unsigned : Denotes [] m.toInt ↔ _ := denotes_plain_iff (by simp) (by simp)
    simp [none, unsigned, IsDigits]
  next digits start => rw [start, denotes_minus_iff, map_magnitude_eq_ok_iff fits_neg_iff]
  next digits start => rw [start, denotes_plus_iff, map_magnitude_eq_ok_iff fits_natCast_iff]
  next chars noDigits noMinus noPlus =>
    rw [denotes_plain_iff noPlus noMinus, map_magnitude_eq_ok_iff fits_natCast_iff]

/-! ## Numbers without sign -/

/-- `Counts chars n`: the characters are digits after one `+` or none, and stand for `n`. -/
def Counts (chars : List Char) (n : Nat) : Prop :=
  ∃ digits, (chars = digits ∨ chars = '+' :: digits) ∧ IsDigits digits ∧ n = positional digits

theorem counts_plus_iff : Counts ('+' :: chars) n ↔ IsDigits chars ∧ n = positional chars := by
  constructor
  · intro counts
    obtain ⟨digits, whole | behind, areDigits, value⟩ := counts
    · exact ((whole ▸ areDigits).not_sign (Or.inl rfl)).elim
    · cases behind
      exact ⟨areDigits, value⟩
  · intro counts
    exact ⟨chars, Or.inr rfl, counts⟩

theorem counts_plain_iff (noPlus : ∀ rest, chars ≠ '+' :: rest) :
    Counts chars n ↔ IsDigits chars ∧ n = positional chars := by
  constructor
  · intro counts
    obtain ⟨digits, rfl | behind, areDigits, value⟩ := counts
    · exact ⟨areDigits, value⟩
    · exact absurd behind (noPlus digits)
  · intro counts
    exact ⟨chars, Or.inl rfl, counts⟩

theorem map_ofNat_magnitude_eq_ok_iff {m : UInt64} :
    (magnitude unsignedMax overflow chars).map UInt64.ofNat = .ok m ↔
      IsDigits chars ∧ m.toNat = positional chars := by
  cases read : magnitude unsignedMax overflow chars with
  | ok n =>
    obtain ⟨areDigits, rfl, within⟩ := magnitude_eq_ok_iff.mp read
    have held : (UInt64.ofNat (positional chars)).toNat = positional chars := by
      unfold unsignedMax at within
      rw [UInt64.toNat_ofNat']
      omega
    simp only [Except.map, Except.ok.injEq, areDigits, true_and]
    rw [← UInt64.toNat_inj, held, eq_comm]
  | error defect =>
    simp only [Except.map, reduceCtorEq, false_iff]
    intro ⟨areDigits, same⟩
    have within : positional chars ≤ unsignedMax := by
      have bound := m.toNat_lt
      unfold unsignedMax
      omega
    rw [magnitude_eq_ok_iff.mpr ⟨areDigits, rfl, within⟩] at read
    cases read

/-- Exactly the numerals without a minus sign of the numbers of 64 bits without sign are read, each
as its number. -/
theorem unsigned_eq_ok_iff {text : String} {m : UInt64} :
    unsigned text = .ok m ↔ Counts text.toList m.toNat := by
  unfold unsigned
  split
  next none =>
    have plain : Counts [] m.toNat ↔ _ := counts_plain_iff (by simp)
    simp [none, plain, IsDigits]
  next digits start => rw [start, counts_plus_iff, map_ofNat_magnitude_eq_ok_iff]
  next chars noDigits noPlus => rw [counts_plain_iff noPlus, map_ofNat_magnitude_eq_ok_iff]

end ImpLang.Numeral
