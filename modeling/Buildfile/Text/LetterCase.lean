import Buildfile.Text.Basic
/-!
# Small and capital letters

The letters that come in two forms, as far as each form is one character: the alphabets of Latin, Greek, Cyrillic and
Armenian.
-/

namespace Buildfile.LetterCase

/-- A run of letters in both forms. -/
inductive Run where
  /-- Small letters, each so far behind its capital letter. -/
  | shifted (first last distance : Nat)
  /-- Capital letters, each right before its small letter. -/
  | paired (first last : Nat)
  deriving DecidableEq, Inhabited

namespace Run

/-- The capital letter of a small one. -/
def upper? (n : Nat) : Run → Option Nat
  | shifted first last distance => if first ≤ n ∧ n ≤ last then some (n - distance) else none
  | paired first last => if first < n ∧ n ≤ last ∧ n % 2 ≠ first % 2 then some (n - 1) else none

/-- The small letter of a capital one. -/
def lower? (n : Nat) : Run → Option Nat
  | shifted first last distance => if first ≤ n + distance ∧ n + distance ≤ last then some (n + distance) else none
  | paired first last => if first ≤ n ∧ n < last ∧ n % 2 = first % 2 then some (n + 1) else none

end Run

/-- The runs of letters beyond ASCII. -/
def runs : List Run :=
  [.shifted 0xE0 0xF6 32, .shifted 0xF8 0xFE 32, .paired 0x100 0x12F, .paired 0x132 0x137, .paired 0x139 0x148,
   .paired 0x14A 0x177, .paired 0x179 0x17E, .paired 0x1CD 0x1DC, .paired 0x1DE 0x1EF, .paired 0x1F8 0x21F,
   .paired 0x222 0x233, .shifted 0x3AC 0x3AC 38, .shifted 0x3AD 0x3AF 37, .shifted 0x3B1 0x3C1 32, .shifted 0x3C3 0x3CB 32,
   .shifted 0x3CC 0x3CC 64, .shifted 0x3CD 0x3CE 63, .paired 0x3D8 0x3EF, .shifted 0x430 0x44F 32, .shifted 0x450 0x45F 80,
   .paired 0x460 0x481, .paired 0x48A 0x4BF, .paired 0x4C1 0x4CE, .paired 0x4D0 0x52F, .shifted 0x561 0x586 48,
   .paired 0x1E00 0x1E95, .paired 0x1EA0 0x1EFF, .shifted 0x24D0 0x24E9 26, .shifted 0xFF41 0xFF5A 32]

/-- Small letters with a capital letter that has another small one. -/
def strays : List (Nat × Nat) := [(0xB5, 0x39C), (0xFF, 0x178), (0x131, 0x49), (0x17F, 0x53), (0x3C2, 0x3A3), (0x1E9B, 0x1E60)]

/-- A letter in capital form. -/
def upper (c : Char) : Char :=
  if c.toNat < 0x80 then c.toUpper
  else match strays.lookup c.toNat with
    | some n => Char.ofNat n
    | none => ((runs.findSome? (Run.upper? c.toNat)).map Char.ofNat).getD c

/-- A letter in small form. -/
def lower (c : Char) : Char :=
  if c.toNat < 0x80 then c.toLower
  else if c.toNat = 0x178 then Char.ofNat 0xFF
  else ((runs.findSome? (Run.lower? c.toNat)).map Char.ofNat).getD c

end Buildfile.LetterCase
