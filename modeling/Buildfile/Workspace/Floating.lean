import Buildfile.Text.Basic
/-!
# Numbers with a floating point

A number is a whole number of steps of a power of two. It is read from a text and shown in decimals exactly:
what lies between two numbers, or between two decimals, goes to the nearer one, and to the even one if it
lies in the middle.
-/

namespace Buildfile

/-- A number with a floating point. -/
inductive Floating where
  /-- `mantissa` steps of the power of two with this exponent. -/
  | finite (negative : Bool) (mantissa : Nat) (exponent : Int)
  | infinite (negative : Bool)
  | undefined (negative : Bool)
  deriving DecidableEq, Inhabited

/-- How exact numbers are. -/
structure Exactness where
  /-- The most bits of a mantissa. -/
  bits : Nat
  /-- The least exponent. -/
  least : Int
  /-- The exponent of the power of two below which numbers are finite. -/
  greatest : Int
  /-- The bits of a mantissa before its point where it is shown in hexadecimal digits. -/
  leading : Nat
  deriving DecidableEq, Inhabited

/-- Numbers of 53 bits. -/
def Exactness.double : Exactness := { bits := 53, least := -1074, greatest := 1024, leading := 1 }

/-- Numbers of 64 bits. -/
def Exactness.extended : Exactness := { bits := 64, least := -16445, greatest := 16384, leading := 4 }

namespace Floating

/-! ## Rounding -/

/-- A quotient rounded to the nearest whole number, in the middle to the even one. -/
def divRound (n d : Nat) : Nat :=
  let q := n / d
  let r := n % d
  if 2 * r < d then q else if d < 2 * r then q + 1 else q + q % 2

/-- The number of bits of a number. -/
def bitLength (n : Nat) : Nat := if n = 0 then 0 else n.log2 + 1

/-- A power of ten. -/
def tenTo (n : Nat) : Nat := Nat.pow 10 n

/-- The number next to a quotient. -/
def ofRatio (x : Exactness) (negative : Bool) (n d : Nat) : Floating :=
  if n = 0 then .finite negative 0 0
  else
    let scaled (e : Int) : Nat × Nat := if 0 ≤ e then (n, d <<< e.toNat) else (n <<< (-e).toNat, d)
    let low : Int := (bitLength n : Int) - bitLength d - x.bits
    let (a, b) := scaled low
    let e := max x.least (if bitLength (a / b) ≤ x.bits then low else low + 1)
    let (a, b) := scaled e
    let m := divRound a b
    if x.greatest < (bitLength m : Int) + e then .infinite negative else .finite negative m e

/-- The number next to an integer. -/
def ofInt (x : Exactness) (n : Int) : Floating := ofRatio x (n < 0) n.natAbs 1

/-- Whether a number is below zero, or a zero with a sign. -/
def isNegative : Floating → Bool
  | finite s _ _ | infinite s | undefined s => s

/-- Whether a number is zero. -/
def isZero : Floating → Bool
  | finite _ m _ => m = 0
  | _ => false

/-- The integer that is a number of steps of a power of two that is not greater than that of the number. -/
def steps (negative : Bool) (m : Nat) (e : Int) (unit : Int) : Int :=
  let n : Int := m <<< (e - unit).toNat
  if negative then -n else n

/-- The sum of two numbers. -/
def add (x : Exactness) : Floating → Floating → Floating
  | finite s m e, finite s' m' e' =>
    let unit := min e e'
    let n := steps s m e unit + steps s' m' e' unit
    if n = 0 then .finite (s && s') 0 0
    else if 0 ≤ unit then ofRatio x (n < 0) (n.natAbs <<< unit.toNat) 1
    else ofRatio x (n < 0) n.natAbs (1 <<< (-unit).toNat)
  | infinite s, infinite s' => if s = s' then .infinite s else .undefined true
  | undefined s, _ | _, undefined s => .undefined s
  | infinite s, _ | _, infinite s => .infinite s

/-- The product of two numbers. -/
def mul (x : Exactness) : Floating → Floating → Floating
  | finite s m e, finite s' m' e' =>
    let e := e + e'
    if 0 ≤ e then ofRatio x (s != s') ((m * m') <<< e.toNat) 1 else ofRatio x (s != s') (m * m') (1 <<< (-e).toNat)
  | undefined s, _ | _, undefined s => .undefined s
  | a, b => if a.isZero ∨ b.isZero then .undefined true else .infinite (a.isNegative != b.isNegative)

/-- Whether one number is less than another. -/
def less : Floating → Floating → Bool
  | finite s m e, finite s' m' e' => steps s m e (min e e') < steps s' m' e' (min e e')
  | undefined _, _ | _, undefined _ => false
  | infinite s, infinite s' => s && !s'
  | infinite s, _ => s
  | _, infinite s => !s

/-- Whether two numbers are equal. -/
def same : Floating → Floating → Bool
  | finite s m e, finite s' m' e' => steps s m e (min e e') == steps s' m' e' (min e e')
  | infinite s, infinite s' => s == s'
  | _, _ => false

/-! ## Decimals -/

/-- So many steps of a power of two in steps of a power of ten, rounded. -/
def inDecimals (m : Nat) (e : Int) (places : Int) : Nat :=
  let n := if 0 ≤ e then m <<< e.toNat else m
  let d := if 0 ≤ e then 1 else 1 <<< (-e).toNat
  if 0 ≤ places then divRound (n * tenTo places.toNat) d else divRound n (d * tenTo (-places).toNat)

/-- Whether so many steps of a power of two are at least a power of ten. -/
def reaches (m : Nat) (e : Int) (ten : Int) : Bool :=
  let n := if 0 ≤ e then m <<< e.toNat else m
  let d := if 0 ≤ e then 1 else 1 <<< (-e).toNat
  if 0 ≤ ten then d * tenTo ten.toNat ≤ n else d ≤ n * tenTo (-ten).toNat

/-- The greatest of a few exponents from `ten` on whose power of ten is reached. -/
def climb (m : Nat) (e : Int) : Nat → (ten : Int) → Int
  | 0, ten => ten
  | k + 1, ten => if reaches m e (ten + 1) then climb m e k (ten + 1) else ten

/-- The exponent of the first digit. -/
def magnitude (m : Nat) (e : Int) : Int :=
  if m = 0 then 0 else climb m e 8 ((((bitLength m : Int) - 1 + e) * 30103) / 100000 - 3)

/-- Digits with a point before the last ones of them. -/
def withPoint (always : Bool) (places : Nat) (n : Nat) : Text :=
  let ds := Text.ofNat n
  let ds := List.replicate (places + 1 - ds.length) '0' ++ ds
  let whole := ds.take (ds.length - places)
  if places = 0 then (if always then whole ++ ['.'] else whole) else whole ++ '.' :: ds.drop (ds.length - places)

/-- So many decimal places. -/
def fixed (always : Bool) (places m : Nat) (e : Int) : Text := withPoint always places (inDecimals m e places)

/-- The digits of a number with so many of them after the first one, and the exponent of the first one. -/
def digitsOf (places m : Nat) (e : Int) : Nat × Int :=
  let ten := magnitude m e
  let n := inDecimals m e (places - ten)
  if tenTo (places + 1) ≤ n then (n / 10, ten + 1) else (n, ten)

/-- An exponent as it is shown. -/
def exponentText (ten : Int) : Text :=
  let ds := Text.ofNat ten.natAbs
  (if ten < 0 then '-' else '+') :: (if ds.length < 2 then '0' :: ds else ds)

/-- One digit, so many decimal places, and an exponent. -/
def scientific (always : Bool) (places m : Nat) (e : Int) : Text :=
  let (n, ten) := digitsOf places m e
  withPoint always places n ++ 'e' :: exponentText ten

/-- A text without the zeros at the end of its decimal places. -/
def trimZeros (t : Text) : Text :=
  if '.' ∈ t then
    match t.reverse.dropWhile (· == '0') with
    | '.' :: r => r.reverse
    | r => r.reverse
  else t

/-- So many digits, with an exponent only where it is needed. -/
def general (always : Bool) (precision m : Nat) (e : Int) : Text :=
  let p := max 1 precision
  let ten := (digitsOf (p - 1) m e).2
  if -4 ≤ ten ∧ ten < p then
    let t := fixed always (p - 1 - ten).toNat m e
    if always then t else trimZeros t
  else
    let t := scientific always (p - 1) m e
    if always then t else trimZeros (t.takeWhile (· != 'e')) ++ t.dropWhile (· != 'e')

/-- Hexadecimal digits, of which so many come after the point, and an exponent of two. -/
def hexadecimal (x : Exactness) (always : Bool) (places : Option Nat) (m : Nat) (e : Int) : Text :=
  let digits := (x.bits - x.leading) / 4
  let shift := x.bits - bitLength m
  let exponent : Int := if m = 0 then 0 else e - shift + digits * 4
  let whole := if m = 0 then 0 else m <<< shift
  let wanted := places.getD digits
  let n := if wanted < digits then divRound whole (1 <<< (4 * (digits - wanted))) else whole <<< (4 * (wanted - digits))
  let ds := Nat.toDigits 16 n
  let ds := List.replicate (wanted + 1 - ds.length) '0' ++ ds
  let first := ds.take (ds.length - wanted)
  let rest := ds.drop (ds.length - wanted)
  let rest := if places.isNone then (rest.reverse.dropWhile (· == '0')).reverse else rest
  lit "0x" ++ first ++ (if rest = [] then (if always then ['.'] else []) else '.' :: rest) ++ 'p' ::
    (if exponent < 0 then '-' else '+') :: Text.ofNat exponent.natAbs

/-! ## Reading -/

/-- The value of a hexadecimal digit. -/
def hexDigit? (c : Char) : Option Nat :=
  if c.isDigit then some (c.toNat - '0'.toNat)
  else if 'a' ≤ c ∧ c ≤ 'f' then some (c.toNat - 'a'.toNat + 10)
  else if 'A' ≤ c ∧ c ≤ 'F' then some (c.toNat - 'A'.toNat + 10)
  else none

/-- The value of some digits. -/
def ofDigits (base : Nat) (ds : Text) : Nat := ds.foldl (fun n c => base * n + (hexDigit? c).getD 0) 0

/-- The digits at the start of a text before and after a point, and the rest; nothing if there is none. -/
def mantissa? (isDigit : Char → Bool) (t : Text) : Option (Text × Text × Text) :=
  let whole := t.takeWhile isDigit
  let (places, rest) := match t.drop whole.length with
    | '.' :: r => (r.takeWhile isDigit, r.dropWhile isDigit)
    | r => ([], r)
  if whole = [] ∧ places = [] then none else some (whole, places, rest)

/-- An exponent after one of two letters, and the rest. -/
def exponentAfter (small large : Char) (t : Text) : Int × Text :=
  match t with
  | c :: r =>
    if c = small ∨ c = large then
      let (negative, ds) := match r with
        | '-' :: ds => (true, ds)
        | '+' :: ds => (false, ds)
        | ds => (false, ds)
      let digits := ds.takeWhile Char.isDigit
      let n : Int := min 100000 (ofDigits 10 digits)
      if digits = [] then (0, t) else (if negative then -n else n, ds.drop digits.length)
    else (0, t)
  | [] => (0, [])

/-- Whether a text starts with a word, in small or capital letters. -/
def startsWith (word t : Text) : Bool := (t.take word.length).map Char.toLower = word

/-- The number at the start of a text without a sign, and the rest. -/
def unsigned? (x : Exactness) (negative : Bool) (t : Text) : Option (Floating × Text) :=
  let hexadecimal? : Option (Floating × Text) :=
    match t with
    | '0' :: c :: r =>
      if c = 'x' ∨ c = 'X' then
        (mantissa? (fun c => (hexDigit? c).isSome) r).map fun (whole, places, rest) =>
          let (e, rest) := exponentAfter 'p' 'P' rest
          let e := e - 4 * places.length
          let m := ofDigits 16 (whole ++ places)
          (if 0 ≤ e then ofRatio x negative (m <<< e.toNat) 1 else ofRatio x negative m (1 <<< (-e).toNat), rest)
      else none
    | _ => none
  hexadecimal?.orElse fun _ =>
    match mantissa? Char.isDigit t with
    | some (whole, places, rest) =>
      let (e, rest) := exponentAfter 'e' 'E' rest
      let e := e - places.length
      let m := ofDigits 10 (whole ++ places)
      some (if m = 0 then .finite negative 0 0
        else if 0 ≤ e then ofRatio x negative (m * tenTo e.toNat) 1
        else ofRatio x negative m (tenTo (-e).toNat), rest)
    | none =>
      if startsWith (lit "infinity") t then some (.infinite negative, t.drop 8)
      else if startsWith (lit "inf") t then some (.infinite negative, t.drop 3)
      else if startsWith (lit "nan") t then some (.undefined negative, t.drop 3)
      else none

/-- A blank before a number. -/
def isSpace (c : Char) : Bool := c == ' ' || ('\t' ≤ c && c ≤ '\r')

/-- The number at the start of a text after blanks and a sign, and the rest. -/
def read? (x : Exactness) (t : Text) : Option (Floating × Text) :=
  match t.dropWhile isSpace with
  | '-' :: r => unsigned? x true r
  | '+' :: r => unsigned? x false r
  | r => unsigned? x false r

/-- Whether a number that was read is not the one that was written, since that is too great or too small. -/
def isOutOfRange (x : Exactness) (written : Text) (v : Floating) : Bool :=
  let t := written.dropWhile fun c => isSpace c || c == '-' || c == '+'
  let hexadecimal := startsWith ['0', 'x'] t
  let ends (c : Char) : Bool := if hexadecimal then c == 'p' || c == 'P' else c == 'e' || c == 'E'
  match v with
  | finite _ 0 _ => ((if hexadecimal then t.drop 2 else t).takeWhile (!ends ·)).any fun c => 0 < (hexDigit? c).getD 0
  | finite _ m e => !hexadecimal && decide ((bitLength m : Int) + e < x.least + x.bits)
  | infinite _ => !startsWith (lit "inf") t
  | undefined _ => false

end Floating

end Buildfile
