import Sexpr.Text.Basic

/-!
# Blank characters

The characters that separate words: the Unicode white space characters and the four information
separators U+001C to U+001F.
-/

namespace Sexpr.Text

/-- The blank characters, as ranges of code points. -/
def blankRanges : Ranges :=
  [(0x09, 0x0D), (0x1C, 0x20), (0x85, 0x85), (0xA0, 0xA0), (0x1680, 0x1680), (0x2000, 0x200A),
   (0x2028, 0x2029), (0x202F, 0x202F), (0x205F, 0x205F), (0x3000, 0x3000)]

/-- Whether a character separates words. -/
def isBlank (c : Char) : Bool := blankRanges.covers c.toNat

theorem areAbove_blankRanges : blankRanges.areAbove 0 = true := by decide

theorem isBlank_iff {c : Char} :
    isBlank c = true ↔ ∃ range ∈ blankRanges, range.1 ≤ c.toNat ∧ c.toNat ≤ range.2 :=
  Ranges.covers_iff areAbove_blankRanges

end Sexpr.Text
