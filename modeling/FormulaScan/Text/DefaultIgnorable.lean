import FormulaScan.Text.Ranges

/-!
# Characters that are ignored in display

The characters with the Unicode property Default_Ignorable_Code_Point: fillers, joiners, selectors
and other code points that a display leaves out when it knows no use for them, the unassigned code
points kept for such characters included. Most of them extend the character before them or have a
general category without a visible form, but the four Hangul fillers are letters.
-/

namespace FormulaScan.Text

/-- The code points with the property Default_Ignorable_Code_Point. -/
def defaultIgnorableRanges : Ranges :=
  [(0xAD, 0xAD), (0x34F, 0x34F), (0x61C, 0x61C), (0x115F, 0x1160), (0x17B4, 0x17B5),
    (0x180B, 0x180F), (0x200B, 0x200F), (0x202A, 0x202E), (0x2060, 0x206F), (0x3164, 0x3164),
    (0xFE00, 0xFE0F), (0xFEFF, 0xFEFF), (0xFFA0, 0xFFA0), (0xFFF0, 0xFFF8), (0x1BCA0, 0x1BCA3),
    (0x1D173, 0x1D17A), (0xE0000, 0xE0FFF)]

/-- Tells whether a character is ignored in display. -/
def isDefaultIgnorable (c : Char) : Bool := defaultIgnorableRanges.contains c

/-- There are 4174 such code points. -/
example : (defaultIgnorableRanges.map fun range => range.2 + 1 - range.1).sum = 4174 := by decide

/-- A Hangul filler is ignored in display; the Hangul letters beside it are not. -/
example :
    isDefaultIgnorable '\u115f' = true ∧ isDefaultIgnorable '\u1160' = true ∧
      isDefaultIgnorable '\u115e' = false ∧ isDefaultIgnorable '\u1161' = false := by
  decide

end FormulaScan.Text
