import Buildfile.Text.Basic
import Buildfile.Text.Printable
/-!
# Columns

A character takes up one column when it is shown; those of some scripts take up two, and marks that are put
over others take up none.
-/

namespace Buildfile.Text

/-- The ranges of characters that take up two columns. -/
def wideRanges : List (Nat × Nat) :=
  [(0x1100, 0x115F), (0x231A, 0x231B), (0x2329, 0x232A), (0x23E9, 0x23EC), (0x25FD, 0x25FE), (0x2614, 0x2615),
   (0x2648, 0x2653), (0x26AA, 0x26AB), (0x26BD, 0x26BE), (0x2705, 0x2705), (0x270A, 0x270B), (0x2728, 0x2728),
   (0x274C, 0x274C), (0x2753, 0x2755), (0x2795, 0x2797), (0x2B1B, 0x2B1C), (0x2B50, 0x2B50), (0x2E80, 0x303E),
   (0x3041, 0x33FF), (0x3400, 0x4DBF), (0x4E00, 0xA4CF), (0xA960, 0xA97C), (0xAC00, 0xD7A3), (0xF900, 0xFAFF),
   (0xFE10, 0xFE19), (0xFE30, 0xFE6F), (0xFF00, 0xFF60), (0xFFE0, 0xFFE6), (0x1F300, 0x1F64F), (0x1F680, 0x1F6FF),
   (0x1F900, 0x1F9FF), (0x20000, 0x2FFFD), (0x30000, 0x3FFFD)]

/-- The ranges of characters that take up no column. -/
def markRanges : List (Nat × Nat) :=
  [(0x0300, 0x036F), (0x0483, 0x0489), (0x0591, 0x05BD), (0x0610, 0x061A), (0x064B, 0x065F), (0x1AB0, 0x1AFF),
   (0x1DC0, 0x1DFF), (0x200B, 0x200F), (0x202A, 0x202E), (0x2060, 0x2064), (0x20D0, 0x20FF), (0xFE00, 0xFE0F),
   (0xFE20, 0xFE2F), (0xFEFF, 0xFEFF)]

/-- Whether a character is in one of some ranges. -/
def isWithin (ranges : List (Nat × Nat)) (c : Char) : Bool := ranges.any fun r => r.1 ≤ c.toNat && c.toNat ≤ r.2

/-- The columns that a character takes up. -/
def columnsOf (c : Char) : Nat :=
  if isWithin markRanges c then 0 else if isWithin wideRanges c then 2 else if isPrintable c then 1 else 0

/-- The columns that a text takes up. -/
def columns (t : Text) : Nat := t.foldr (fun c n => columnsOf c + n) 0

end Buildfile.Text
