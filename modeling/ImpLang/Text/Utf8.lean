/-!
# Reading UTF-8 without refusing any byte

Bytes are decoded one at a time. A well-formed sequence gives its character. An ill-formed stretch
gives one replacement character for each maximal piece that starts like a character: a byte that
cannot continue the character under way ends that piece and is read again as a first byte.
-/

namespace ImpLang.Text.Utf8

def replacement : Char := '\ufffd'

/-- A character of which some bytes have been read: the range of the next byte, how many follow that
one, and the bits so far. -/
structure Pending where
  low : UInt8
  high : UInt8
  more : Nat
  bits : Nat
  deriving DecidableEq, Repr

structure Decoder where
  text : String := ""
  pending : Option Pending := none
  deriving DecidableEq, Repr

/-- Reads a byte at the start of a character. The ranges for the second byte leave out over-long
forms, surrogates and points above U+10FFFF. -/
def Decoder.first (text : String) (byte : UInt8) : Decoder :=
  let bits := byte.toNat
  if byte < 0x80 then ⟨text.push (Char.ofNat bits), none⟩
  else if byte < 0xc2 then ⟨text.push replacement, none⟩
  else if byte < 0xe0 then ⟨text, some ⟨0x80, 0xbf, 0, bits % 32⟩⟩
  else if byte < 0xf0 then
    let low := if byte = 0xe0 then 0xa0 else 0x80
    let high := if byte = 0xed then 0x9f else 0xbf
    ⟨text, some ⟨low, high, 1, bits % 16⟩⟩
  else if byte < 0xf5 then
    let low := if byte = 0xf0 then 0x90 else 0x80
    let high := if byte = 0xf4 then 0x8f else 0xbf
    ⟨text, some ⟨low, high, 2, bits % 8⟩⟩
  else ⟨text.push replacement, none⟩

def Decoder.read (decoder : Decoder) (byte : UInt8) : Decoder :=
  match decoder.pending with
  | none => .first decoder.text byte
  | some pending =>
    if pending.low ≤ byte ∧ byte ≤ pending.high then
      let bits := pending.bits * 64 + byte.toNat % 64
      match pending.more with
      | 0 => ⟨decoder.text.push (Char.ofNat bits), none⟩
      | more + 1 => ⟨decoder.text, some ⟨0x80, 0xbf, more, bits⟩⟩
    else .first (decoder.text.push replacement) byte

/-- The text once no more bytes come: a character under way is a piece that is none. -/
def Decoder.finish (decoder : Decoder) : String :=
  match decoder.pending with
  | none => decoder.text
  | some _ => decoder.text.push replacement

def decode (bytes : List UInt8) : String :=
  (bytes.foldl Decoder.read {}).finish

end ImpLang.Text.Utf8
