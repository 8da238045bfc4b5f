import Buildfile.Workspace.Floating
/-!
# Escapes

After a backslash, a letter or a number stands for a character that cannot be written otherwise. Which
escapes are known depends on who reads them.
-/

namespace Buildfile.Escape

/-- The value of an octal digit. -/
def octal? (c : Char) : Option Nat := if '0' ≤ c ∧ c ≤ '7' then some (c.toNat - '0'.toNat) else none

/-- The character that a letter after a backslash stands for. -/
def letter? : Char → Option Char
  | 'a' => some '\x07'
  | 'b' => some '\x08'
  | 'f' => some '\x0C'
  | 'n' => some '\n'
  | 'r' => some '\r'
  | 't' => some '\t'
  | 'v' => some '\x0B'
  | '\\' => some '\\'
  | _ => none

/-- The number made of at most so many digits at the start of a text, after what has been read, and the rest. -/
def numbered (digit? : Char → Option Nat) (base : Nat) (value : Nat) : (digits : Nat) → Text → Nat × Text
  | 0, t => (value, t)
  | _ + 1, [] => (value, [])
  | k + 1, c :: t =>
    match digit? c with
    | none => (value, c :: t)
    | some d => numbered digit? base (base * value + d) k t

/-- The byte of a number made of octal digits, and the rest. -/
def octal (digits : Nat) (t : Text) : Char × Text :=
  let (n, rest) := numbered octal? 8 0 digits t
  (Char.ofNat (n % 256), rest)

/-- The byte of a number made of hexadecimal digits, and the rest, if there are any. -/
def hexadecimal? (t : Text) : Option (Char × Text) :=
  if t.head?.any fun c => (Floating.hexDigit? c).isSome then
    let (n, rest) := numbered Floating.hexDigit? 16 0 2 t
    some (Char.ofNat (n % 256), rest)
  else none

/-- What a backslash stands for with the text after it, and the rest; nothing if it stands for itself.
The escapes of hexadecimal numbers and of the escape character are known if `extended`; a zero before an
octal number does not count as one of its digits if `leadingZero`. -/
def character? (extended leadingZero : Bool) : Text → Option (Char × Text)
  | [] => none
  | c :: t =>
    if c = '0' ∧ leadingZero then some (octal 3 t)
    else if (octal? c).isSome then some (octal 3 (c :: t))
    else if extended ∧ c = 'e' then some ('\x1b', t)
    else if extended ∧ c = 'x' then hexadecimal? t
    else (letter? c).map (·, t)

/-- The text with its escapes replaced; the flag tells whether output goes on after it, which `\c` ends.
The first argument bounds the length of the text. -/
def unescapeWithin (extended : Bool) : Nat → Text → Text × Bool
  | 0, _ | _ + 1, [] => ([], true)
  | k + 1, c :: t =>
    if c ≠ '\\' then
      let (rest, on) := unescapeWithin extended k t
      (c :: rest, on)
    else if t.head? = some 'c' then ([], false)
    else
      let (c, t) := (character? extended true t).getD ('\\', t)
      let (rest, on) := unescapeWithin extended k t
      (c :: rest, on)

/-- The text with its escapes replaced, and whether output goes on after it. -/
def unescape (extended : Bool) (t : Text) : Text × Bool := unescapeWithin extended t.length t

end Buildfile.Escape
