/-!
# Decimal numerals

Numbers are written in decimal with a minus sign for negative ones, and read back by a left to right
scan that stops at the first problem. At each position a character that is no digit is noticed
before a value that has grown too large, so a numeral that overflows early is too large however it
goes on.
-/

namespace ImpLang.Numeral

/-- Why a text is not the numeral of a number in range. -/
inductive Defect where
  | empty | invalidDigit | tooLarge | tooSmall
  deriving DecidableEq, Repr

def Defect.message : Defect → String
  | .empty => "cannot parse integer from empty string"
  | .invalidDigit => "invalid digit found in string"
  | .tooLarge => "number too large to fit in target type"
  | .tooSmall => "number too small to fit in target type"

def digits (n : Nat) : List Char :=
  Nat.toDigits 10 n

def chars : Int → List Char
  | .ofNat n => digits n
  | .negSucc n => '-' :: digits (n + 1)

def render (n : Int) : String :=
  String.ofList (chars n)

def digit? (c : Char) : Option Nat :=
  if c.isDigit then some (c.toNat - '0'.toNat) else none

/-- Appends digits to the value read so far. A value above the limit is the given defect. -/
def scan (limit : Nat) (overflow : Defect) : Nat → List Char → Except Defect Nat
  | value, [] => .ok value
  | value, c :: rest =>
    match digit? c with
    | none => .error .invalidDigit
    | some digit =>
      if 10 * value + digit ≤ limit then scan limit overflow (10 * value + digit) rest
      else .error overflow

/-- The value of the digits after a sign, of which there must be one. -/
def magnitude (limit : Nat) (overflow : Defect) : List Char → Except Defect Nat
  | [] => .error .invalidDigit
  | digits => scan limit overflow 0 digits

def signedMax : Nat := 9223372036854775807

/-- The magnitude of the least number of 64 bits with sign. -/
def signedMin : Nat := 9223372036854775808

def unsignedMax : Nat := 18446744073709551615

/-- Reads a number of 64 bits with sign: one `+` or `-` or none, then digits. -/
def signed (text : String) : Except Defect Int64 :=
  match text.toList with
  | [] => .error .empty
  | '-' :: digits => (magnitude signedMin .tooSmall digits).map fun n : Nat => Int64.ofInt (-n)
  | '+' :: digits => (magnitude signedMax .tooLarge digits).map fun n : Nat => Int64.ofInt n
  | digits => (magnitude signedMax .tooLarge digits).map fun n : Nat => Int64.ofInt n

/-- Reads a number of 64 bits without sign: one `+` or none, then digits. -/
def unsigned (text : String) : Except Defect UInt64 :=
  match text.toList with
  | [] => .error .empty
  | '+' :: digits => (magnitude unsignedMax .tooLarge digits).map UInt64.ofNat
  | digits => (magnitude unsignedMax .tooLarge digits).map UInt64.ofNat

/-! ## What is written can be read -/

/-- Appending digits never makes a value smaller. -/
theorem le_ofDigitChars (digits : List Char) (value : Nat) :
    value ≤ Nat.ofDigitChars 10 digits value := by
  induction digits generalizing value with
  | nil => simp
  | cons c rest ih =>
    rw [Nat.ofDigitChars_cons]
    have := ih (10 * value + (c.toNat - '0'.toNat))
    omega

/-- A scan over digits has their positional value, if that is within the limit. -/
theorem scan_eq_ok {limit : Nat} {overflow : Defect} {digits : List Char} {value : Nat}
    (areDigits : ∀ c ∈ digits, c.isDigit = true)
    (within : Nat.ofDigitChars 10 digits value ≤ limit) :
    scan limit overflow value digits = .ok (Nat.ofDigitChars 10 digits value) := by
  induction digits generalizing value with
  | nil => simp [scan]
  | cons c rest ih =>
    rw [Nat.ofDigitChars_cons] at within ⊢
    have grows := le_ofDigitChars rest (10 * value + (c.toNat - '0'.toNat))
    have fits : 10 * value + (c.toNat - '0'.toNat) ≤ limit := Nat.le_trans grows within
    simp only [scan, digit?, areDigits c (by simp), if_true, if_pos fits]
    exact ih (fun d member => areDigits d (by simp [member])) within

theorem isDigit_of_mem_digits {n : Nat} {c : Char} (member : c ∈ digits n) : c.isDigit = true :=
  Nat.isDigit_of_mem_toDigits (by decide) (by decide) member

theorem digits_ne_nil (n : Nat) : digits n ≠ [] :=
  Nat.toDigits_ne_nil

theorem ofDigitChars_digits (n : Nat) : Nat.ofDigitChars 10 (digits n) 0 = n :=
  Nat.ofDigitChars_toDigits (by decide) (by decide)

/-- The digits of a number within the limit are read as that number. -/
theorem magnitude_digits {limit n : Nat} {overflow : Defect} (within : n ≤ limit) :
    magnitude limit overflow (digits n) = .ok n := by
  have scanned : scan limit overflow 0 (digits n) = .ok n := by
    rw [scan_eq_ok (fun c => isDigit_of_mem_digits) (by rwa [ofDigitChars_digits]),
      ofDigitChars_digits]
  cases written : digits n with
  | nil => exact absurd written (digits_ne_nil n)
  | cons c rest => simpa [magnitude, written] using scanned

/-- A text that begins with a digit has no sign. -/
theorem signed_of_isDigit {text : String} {c : Char} {rest : List Char}
    (start : text.toList = c :: rest) (isDigit : c.isDigit = true) :
    signed text = (magnitude signedMax .tooLarge (c :: rest)).map fun n : Nat => Int64.ofInt n := by
  unfold signed
  rw [start]
  split
  next h => simp at h
  next h => simp_all [show ('-').isDigit = false by decide]
  next h => simp_all [show ('+').isDigit = false by decide]
  next => rfl

/-- The numeral of a number of 64 bits is read as that number. -/
theorem signed_render (n : Int64) : signed (render n.toInt) = .ok n := by
  have low := n.le_toInt
  have high := n.toInt_lt
  cases integer : n.toInt with
  | ofNat k =>
    cases written : digits k with
    | nil => exact absurd written (digits_ne_nil k)
    | cons c rest =>
      have isDigit : c.isDigit = true := isDigit_of_mem_digits (by rw [written]; simp)
      have within : k ≤ signedMax := by
        simp only [integer, Int.ofNat_eq_natCast] at high
        simp only [signedMax]
        omega
      have start : (render (Int.ofNat k)).toList = c :: rest := by
        simp [render, chars, written]
      rw [signed_of_isDigit start isDigit, ← written, magnitude_digits within]
      conv => rhs; rw [← Int64.ofInt_toInt n, integer]
      rfl
  | negSucc k =>
    have within : k + 1 ≤ signedMin := by
      simp only [signedMin]
      omega
    have start : (render (Int.negSucc k)).toList = '-' :: digits (k + 1) := by
      simp [render, chars]
    unfold signed
    rw [start]
    simp only [magnitude_digits within]
    conv => rhs; rw [← Int64.ofInt_toInt n, integer]
    rfl

/-! ## What is read is a numeral -/

/-- A scan that succeeds has gone over digits only. -/
theorem isDigit_of_scan {limit value n : Nat} {overflow : Defect} {chars : List Char}
    (scanned : scan limit overflow value chars = .ok n) : ∀ c ∈ chars, c.isDigit = true := by
  induction chars generalizing value with
  | nil => simp
  | cons c rest ih =>
    unfold scan digit? at scanned
    by_cases isDigit : c.isDigit = true
    · simp only [isDigit, if_true] at scanned
      split at scanned
      · simpa [isDigit] using ih scanned
      · cases scanned
    · simp [isDigit] at scanned

theorem isDigit_of_map_magnitude {limit : Nat} {overflow : Defect} {chars : List Char} {n : Int64}
    {f : Nat → Int64} (read : (magnitude limit overflow chars).map f = .ok n) :
    ∀ c ∈ chars, c.isDigit = true := by
  cases chars with
  | nil => simp
  | cons c rest =>
    cases scanned : scan limit overflow 0 (c :: rest) with
    | ok value => exact isDigit_of_scan scanned
    | error defect =>
      simp [magnitude, scanned, Except.map] at read

/-- A text that is read as a number has no characters but signs and digits. -/
theorem mem_of_signed {text : String} {n : Int64} (read : signed text = .ok n) :
    ∀ c ∈ text.toList, c = '-' ∨ c = '+' ∨ c.isDigit = true := by
  unfold signed at read
  split at read
  next => cases read
  next digits start =>
    have areDigits := isDigit_of_map_magnitude read
    simp only [start, List.mem_cons]
    exact fun c member => member.imp_right fun later => Or.inr (areDigits c later)
  next digits start =>
    have areDigits := isDigit_of_map_magnitude read
    simp only [start, List.mem_cons]
    exact fun c member => Or.inr (member.imp_right fun later => areDigits c later)
  next =>
    have areDigits := isDigit_of_map_magnitude read
    exact fun c member => Or.inr (Or.inr (areDigits c member))

end ImpLang.Numeral
