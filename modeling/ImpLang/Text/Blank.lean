import ImpLang.Text.Ranges

/-!
# White space

The characters with the property White_Space, and texts freed of them at both ends. The information
separators U+001C to U+001F and the zero-width characters are not white space.
-/

namespace ImpLang.Text

/-- The code points with the property White_Space. -/
def blankRanges : Ranges where
  bounds := [
    (0x9, 0xd), (0x20, 0x20), (0x85, 0x85), (0xa0, 0xa0), (0x1680, 0x1680), (0x2000, 0x200a),
    (0x2028, 0x2029), (0x202f, 0x202f), (0x205f, 0x205f), (0x3000, 0x3000)]
  ascending := by decide

def isBlank (c : Char) : Bool :=
  blankRanges.covers c.toNat

/-- The characters from the first to the last that is not white space. -/
def trimChars (chars : List Char) : List Char :=
  ((chars.dropWhile isBlank).reverse.dropWhile isBlank).reverse

def trim (text : String) : String :=
  String.ofList (trimChars text.toList)

/-- Only white space is lost. -/
theorem mem_trim {text : String} {c : Char} (member : c ∈ text.toList)
    (notBlank : isBlank c = false) : c ∈ (trim text).toList := by
  have kept {chars : List Char} (member : c ∈ chars) : c ∈ chars.dropWhile isBlank := by
    have dropped := List.all_takeWhile (p := isBlank) (l := chars)
    rw [← List.takeWhile_append_dropWhile (p := isBlank) (l := chars), List.mem_append] at member
    refine member.resolve_left fun early => ?_
    have blank := List.all_eq_true.mp dropped c early
    simp [notBlank] at blank
  simp only [trim, trimChars, String.toList_ofList, List.mem_reverse]
  exact kept (List.mem_reverse.mpr (kept member))

end ImpLang.Text
