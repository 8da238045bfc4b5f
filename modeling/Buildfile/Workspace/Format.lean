import Buildfile.Workspace.Floating
/-!
# Formats

A conversion of a format says how a text or a number is shown: in what width, with what sign and with how
many digits. The formats of several utilities share the conversions of this module.
-/

namespace Buildfile.Format

/-- A conversion of a format. -/
structure Conversion where
  flags : Text := []
  width : Nat := 0
  precision : Option Nat := none
  letter : Char := 's'
  deriving DecidableEq, Inhabited

namespace Conversion

/-- Whether a conversion has a flag. -/
def has (c : Conversion) (flag : Char) : Bool := flag ∈ c.flags

end Conversion

/-- Text in the width of a conversion. -/
def padded (c : Conversion) (t : Text) : Text :=
  let gap := List.replicate (c.width - t.length) ' '
  if '-' ∈ c.flags then t ++ gap else gap ++ t

/-- Text as far as the precision goes, in the width of a conversion. -/
def text (c : Conversion) (t : Text) : Text := padded c ((c.precision.map t.take).getD t)

/-- Digits of a number after its sign, in the width of a conversion. Zeros fill the precision, or the width if
the conversion has the flag for it. -/
def digits (c : Conversion) (sign ds : Text) : Text :=
  let wanted := match c.precision with
    | some p => p
    | none => if c.has '0' ∧ !c.has '-' then c.width - sign.length else 0
  let ds := if c.precision = some 0 ∧ ds = ['0'] then [] else ds
  padded c (sign ++ List.replicate (wanted - ds.length) '0' ++ ds)

/-- The sign of a number. -/
def sign (c : Conversion) (negative : Bool) : Text :=
  if negative then ['-'] else if c.has '+' then ['+'] else if c.has ' ' then [' '] else []

/-- An integer with a sign. -/
def integer (c : Conversion) (n : Int) : Text := digits c (sign c (n < 0)) (Text.ofNat n.natAbs)

/-- A natural number in the base that the letter stands for. -/
def natural (c : Conversion) (n : Nat) : Text :=
  match c.letter with
  | 'o' =>
    let ds := Nat.toDigits 8 n
    if c.has '#' ∧ n ≠ 0 ∧ c.precision.all (· ≤ ds.length) then digits c [] ('0' :: ds)
    else if c.has '#' ∧ n = 0 then digits { c with precision := some (max 1 (c.precision.getD 1)) } [] ds
    else digits c [] ds
  | 'x' => digits c (if c.has '#' ∧ n ≠ 0 then ['0', 'x'] else []) (Nat.toDigits 16 n)
  | 'X' => (digits c (if c.has '#' ∧ n ≠ 0 then ['0', 'x'] else []) (Nat.toDigits 16 n)).map Char.toUpper
  | _ => digits c [] (Text.ofNat n)

/-- A number with a floating point, as the letter says. -/
def floating (x : Exactness) (c : Conversion) (v : Floating) : Text :=
  let capital := c.letter.isUpper
  let plain : Conversion := { c with precision := none }
  let always := c.has '#'
  let shown := match v with
    | .infinite s => padded c (sign c s ++ lit "inf")
    | .undefined s => padded c (sign c s ++ lit "nan")
    | .finite s m e =>
      match c.letter.toLower with
      | 'e' => digits plain (sign c s) (Floating.scientific always (c.precision.getD 6) m e)
      | 'g' => digits plain (sign c s) (Floating.general always (c.precision.getD 6) m e)
      | 'a' => digits plain (sign c s ++ ['0', 'x']) ((Floating.hexadecimal x always c.precision m e).drop 2)
      | _ => digits plain (sign c s) (Floating.fixed always (c.precision.getD 6) m e)
  if capital then shown.map Char.toUpper else shown

/-- Digits at the start of a text, as a number if there are any, and the rest. -/
def number? (t : Text) : Option Nat × Text :=
  let ds := t.takeWhile Char.isDigit
  (if ds = [] then none else some (Floating.ofDigits 10 ds), t.drop ds.length)

/-! ## Integers -/

/-- The integer at the start of a text, after blanks and a sign, and the rest: octal after `0`, hexadecimal
after `0x`. -/
def integer? (t : Text) : Option (Int × Text) :=
  let (negative, t) := match t.dropWhile Floating.isSpace with
    | '-' :: r => (true, r)
    | '+' :: r => (false, r)
    | r => (false, r)
  let signed (n : Nat) : Int := if negative then -n else n
  let inBase (base : Nat) (t : Text) : Text := t.takeWhile fun c => (Floating.hexDigit? c).any (· < base)
  match t with
  | '0' :: r =>
    let h := match r with
      | x :: h => if x = 'x' ∨ x = 'X' then inBase 16 h else []
      | [] => []
    if h ≠ [] then some (signed (Floating.ofDigits 16 h), r.drop (h.length + 1))
    else
      let ds := inBase 8 t
      some (signed (Floating.ofDigits 8 ds), t.drop ds.length)
  | _ =>
    let ds := inBase 10 t
    if ds = [] then none else some (signed (Floating.ofDigits 10 ds), t.drop ds.length)

/-- The greatest integer of 64 bits with a sign. -/
def maxSigned : Int := 0x7FFFFFFFFFFFFFFF

/-- The greatest integer of 64 bits without a sign. -/
def maxUnsigned : Int := 0xFFFFFFFFFFFFFFFF

/-- An integer as near to another one as 64 bits with a sign allow. -/
def clampSigned (n : Int) : Int := max (-maxSigned - 1) (min maxSigned n)

/-- An integer in 64 bits without a sign, where one below zero counts from the end; too great a one becomes
the greatest. -/
def clampUnsigned (n : Int) : Nat :=
  if maxUnsigned < n.natAbs then maxUnsigned.toNat else (BitVec.ofInt 64 n).toNat

end Buildfile.Format
