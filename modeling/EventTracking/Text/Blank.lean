import EventTracking.Text.CodePoints

/-!
# Blank characters

Two classes of blank characters: those with the Unicode property `White_Space`, which trimming
removes, and those that may stand between two tokens of a source file, which also count the two
direction marks.

Main statement: everything that trimming removes may stand between tokens
(`isGap_of_isBlank`).
-/

namespace EventTracking.Text

/-- The code points with the property `White_Space`. -/
def whiteSpace : CodePoints where
  boundaries := [
    0x9, 0xE, 0x20, 0x21, 0x85, 0x86, 0xA0, 0xA1, 0x1680, 0x1681, 0x2000, 0x200B, 0x2028, 0x202A,
    0x202F, 0x2030, 0x205F, 0x2060, 0x3000, 0x3001]

/-- A blank has the property `White_Space`. -/
def isBlank (c : Char) : Bool := whiteSpace.contains c.toNat

/-- Between tokens the left-to-right and the right-to-left mark count as blanks too. -/
def isGap (c : Char) : Bool := isBlank c || c == '\u200E' || c == '\u200F'

/-- The text without the blanks at its two ends. -/
def trim (text : List Char) : List Char :=
  ((text.dropWhile isBlank).reverse.dropWhile isBlank).reverse

/-- A blank may stand between tokens. -/
theorem isGap_of_isBlank {c : Char} (h : isBlank c = true) : isGap c = true := by
  simp [isGap, h]

end EventTracking.Text
