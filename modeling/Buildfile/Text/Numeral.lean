import Buildfile.Text.Blank
/-!
# Numerals as people type them

A numeral is a sign, if any, and decimal digits of any script, with single underscores allowed
between digits and blanks allowed around the whole. An integer of more than `maxDigits` digits is
refused.
-/

namespace Buildfile.Text

/-- The digit zero of each script that has decimal digits; the other nine follow it. -/
def zeroDigits : List Nat :=
  [0x30, 0x660, 0x6F0, 0x7C0, 0x966, 0x9E6, 0xA66, 0xAE6, 0xB66, 0xBE6, 0xC66, 0xCE6, 0xD66, 0xDE6,
   0xE50, 0xED0, 0xF20, 0x1040, 0x1090, 0x17E0, 0x1810, 0x1946, 0x19D0, 0x1A80, 0x1A90, 0x1B50,
   0x1BB0, 0x1C40, 0x1C50, 0xA620, 0xA8D0, 0xA900, 0xA9D0, 0xA9F0, 0xAA50, 0xABF0, 0xFF10, 0x104A0,
   0x10D30, 0x11066, 0x110F0, 0x11136, 0x111D0, 0x112F0, 0x11450, 0x114D0, 0x11650, 0x116C0,
   0x11730, 0x118E0, 0x11950, 0x11C50, 0x11D50, 0x11DA0, 0x16A60, 0x16AC0, 0x16B50, 0x1D7CE,
   0x1D7D8, 0x1D7E2, 0x1D7EC, 0x1D7F6, 0x1E140, 0x1E2F0, 0x1E950, 0x1FBF0]

/-- The value of a decimal digit of any script. -/
def digitValue? (c : Char) : Option Nat :=
  (zeroDigits.find? fun z => z ≤ c.toNat && c.toNat < z + 10).map (c.toNat - ·)

/-- The most digits that a numeral may have. -/
def maxDigits : Nat := 4300

/-- The digits of a numeral without its sign. An underscore must stand between two digits. -/
def digitValues? : Text → Option (List Nat)
  | [] => none
  | [c] => (digitValue? c).map ([·])
  | c :: '_' :: t => do (← digitValue? c) :: (← digitValues? t)
  | c :: t => do (← digitValue? c) :: (← digitValues? t)

/-- A blank that may surround a numeral. The information separators are not among them. -/
def isNumeralBlank (c : Char) : Bool := isBlank c && !(0x1C ≤ c.toNat && c.toNat ≤ 0x1F)

/-- The integer that a numeral stands for. -/
def toInt? (t : Text) : Option Int :=
  let core := ((t.dropWhile isNumeralBlank).reverse.dropWhile isNumeralBlank).reverse
  let value (ds : Text) : Option Nat := do
    let digits ← digitValues? ds
    if digits.length ≤ maxDigits then some (digits.foldl (fun n d => 10 * n + d) 0) else none
  match core with
  | '-' :: ds => (value ds).map fun n => -(n : Int)
  | '+' :: ds => (value ds).map Int.ofNat
  | ds => (value ds).map Int.ofNat

end Buildfile.Text
