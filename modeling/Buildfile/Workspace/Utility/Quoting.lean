import Buildfile.Text.Octets
import Buildfile.Text.Printable
/-!
# Quoting in messages

Utilities quote names and words in their messages, so that blanks and unprintable characters can be seen.
A name is quoted as a shell would read it; a word stands between quotation marks, which depend on the
character set that is in use.
-/

namespace Buildfile.Quoting

/-- The octets of an octal number of three digits. -/
def octal (c : Char) : Text :=
  let n := c.toNat
  [Nat.digitChar (n / 64 % 8), Nat.digitChar (n / 8 % 8), Nat.digitChar (n % 8)]

/-- The letter that stands for a character after a backslash. -/
def escapeLetter? : Char → Option Char
  | '\x07' => some 'a'
  | '\x08' => some 'b'
  | '\x0C' => some 'f'
  | '\n' => some 'n'
  | '\r' => some 'r'
  | '\t' => some 't'
  | '\x0B' => some 'v'
  | _ => none

/-- An unprintable part of a text after backslashes. -/
def escaped (octets : Text) : Text :=
  octets.flatMap fun c => '\\' :: ((escapeLetter? c).map fun l => [l]).getD (octal c)

/-- Whether a part of a text can be shown as it is. -/
def isShown (u : Text × Option Char) : Bool := u.2.any isPrintable

/-- Whether a character needs quotes wherever it stands. -/
def isActive (c : Char) : Bool := c ∈ (lit " !\"$&()*;<=>[^`|\\?'")

/-- Whether a character means the same between single and between double quotes. -/
def isTame (c : Char) : Bool := c.isAlphanum || c ∈ (lit " %+,-./:]_'")

/-- Whether a name needs quotes. -/
def needsQuotes (t : Text) : Bool :=
  t = [] || t.any isActive || t.head? = some '#' || t.head? = some '~' || t = ['{'] || t = ['}'] ||
    (Octets.characters t).any (!isShown ·)

/-- The parts of a name between single quotes; unprintable ones stand in quotes of their own. -/
def shellParts : (inEscape : Bool) → List (Text × Option Char) → Text
  | _, [] => []
  | inEscape, u :: us =>
    if !isShown u then (if inEscape then [] else lit "'$'") ++ escaped u.1 ++ shellParts true us
    else (if inEscape then lit "''" else []) ++ (if u.1 = ['\''] then lit "'\\''" else u.1) ++ shellParts false us

/-- A name in quotes. -/
def always (t : Text) : Text :=
  if '\'' ∈ t ∧ t.all isTame then '"' :: t ++ ['"'] else '\'' :: shellParts false (Octets.characters t) ++ ['\'']

/-- A name in quotes if it needs them. -/
def ifNeeded (t : Text) : Text := if needsQuotes t then always t else t

/-- A word between quotation marks; they are simple ones if `simple`. -/
def word (simple : Bool) (t : Text) : Text :=
  let left := if simple then ['\''] else Octets.ofText ['‘']
  let right := if simple then ['\''] else Octets.ofText ['’']
  let part (u : Text × Option Char) : Text :=
    if u.1 = ['\\'] ∨ u.1 = right then '\\' :: u.1
    else if isShown u ∧ (!simple ∨ u.1.length = 1) then u.1
    else escaped u.1
  left ++ (Octets.characters t).flatMap part ++ right

/-- A word between quotation marks as most messages show it. -/
example : Octets.toText (word false (lit "a b")) = ['‘', 'a', ' ', 'b', '’'] := by cbv

end Buildfile.Quoting
