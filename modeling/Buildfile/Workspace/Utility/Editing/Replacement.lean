import Buildfile.Text.LetterCase
import Buildfile.Text.Octets
import Buildfile.Workspace.Floating
import Buildfile.Workspace.Utility.Editing.Script
/-!
# Replacements

In the texts of a script a backslash stands before characters that cannot be written otherwise. What such a character
becomes is the same in all texts; what becomes of other backslashes depends on what the text is for.

A replacement is read into pieces, and a backslash before a letter changes the form of the letters that follow. A form
for one letter waits for the first letter that is put in.
-/

namespace Buildfile.Editing

/-! ## Escapes -/

/-- What a text is for. -/
inductive Purpose where
  | expression
  | replacement
  /-- Lines that are put in. -/
  | lines
  /-- Letters that are translated. -/
  | letters
  deriving DecidableEq, Inhabited

/-- The character of an octet. -/
def octet (n : Nat) : Char := if n < 0x80 then Char.ofNat n else Char.ofNat (Octets.strayBase + n)

/-- The digits that a number of at most so many of them starts with. -/
def numberDigits (base most : Nat) (t : Text) : Text :=
  (t.take most).takeWhile fun c => (Floating.hexDigit? c).any (· < base)

/-- A character that is written as a number in a base, and the text after it; without digits it is the letter before
them. -/
def numbered (letter : Char) (base most : Nat) (t : Text) : Char × Text :=
  let ds := numberDigits base most t
  if ds = [] then (letter, t) else (octet (Floating.ofDigits base ds % 256), t.drop ds.length)

/-- A text of a bounded length with its escapes read, unless one stands inside another one. -/
def unescapeWithin (p : Purpose) : Nat → Text → Option Text
  | 0, t => some t
  | _ + 1, [] => some []
  | k + 1, '\\' :: c :: t =>
    let go (a : Text) (t : Text) : Option Text := (unescapeWithin p k t).map (a ++ ·)
    let coded (base most : Nat) : Option Text :=
      let (x, rest) := numbered c base most t
      go (if p = .replacement ∧ (x = '&' ∨ x = '\\') then ['\\', x] else [x]) rest
    match c with
    | 'a' => go ['\x07'] t
    | 'f' => go ['\x0C'] t
    | 'n' => if p = .letters then go ['\\', 'n'] t else go ['\n'] t
    | 'r' => go ['\r'] t
    | 't' => go ['\t'] t
    | 'v' => go ['\x0B'] t
    | 'd' => coded 10 3
    | 'o' => coded 8 3
    | 'x' => coded 16 2
    | 'c' =>
      match t with
      | [] => some ['\\']
      | '\\' :: '\\' :: t => go [Char.ofNat 0x1C] t
      | '\\' :: _ => none
      | d :: t => go [Char.ofNat (d.toUpper.toNat ^^^ 0x40)] t
    | c => go (if p = .lines then [c] else ['\\', c]) t
  | k + 1, c :: t => (unescapeWithin p k t).map (c :: ·)

/-- A text with its escapes read, unless one stands inside another one. -/
def unescape? (p : Purpose) (t : Text) : Option Text :=
  (unescapeWithin p (t.length + 1) t).map fun t => Octets.decoded (Octets.encoded t)

/-! ## Reading replacements -/

/-- How far a replacement has been read: its pieces, the latest first, the text after them in opposite order, the
forms that hold now, and the form that holds after one letter. -/
structure Draft where
  pieces : List Piece := []
  text : Text := []
  form : LetterForm := .asIs
  first : LetterForm := .asIs
  later : LetterForm := .asIs
  deriving Inhabited

/-- The draft with a piece up to here. -/
def Draft.cut (d : Draft) (group : Option Nat) (more : Text := []) : Draft :=
  let piece : Piece := { form := d.form, first := d.first, text := d.text.reverse ++ more, group }
  { d with pieces := piece :: d.pieces, text := [], form := d.later, first := .asIs }

/-- Reads a replacement after what has been read. -/
def readPieces : Draft → Text → List Piece
  | d, [] => (if d.text = [] then d.pieces else (d.cut none).pieces).reverse
  | d, ['\\'] => (d.cut none ['\\']).pieces.reverse
  | d, '\\' :: c :: t =>
    match c with
    | 'L' => readPieces { d.cut none with form := .lower, later := .lower } t
    | 'U' => readPieces { d.cut none with form := .upper, later := .upper } t
    | 'E' => readPieces { d.cut none with form := .asIs, later := .asIs } t
    | 'l' =>
      let d := d.cut none
      readPieces { d with later := d.form, first := .lower } t
    | 'u' =>
      let d := d.cut none
      readPieces { d with later := d.form, first := .upper } t
    | c =>
      if c.isDigit then readPieces (d.cut (some (c.toNat - '0'.toNat))) t else readPieces (d.cut none [c]) t
  | d, '&' :: t => readPieces (d.cut (some 0)) t
  | d, c :: t => readPieces { d with text := c :: d.text } t

/-- The pieces of a replacement. -/
def piecesOf (t : Text) : List Piece := readPieces {} t

/-- The greatest group that pieces ask for. -/
def greatestGroup (ps : List Piece) : Nat := (ps.filterMap (·.group)).foldl max 0

/-! ## Putting replacements in -/

/-- A letter in a form. -/
def LetterForm.apply (f : LetterForm) (c : Char) : Char :=
  match f with
  | asIs => c
  | upper => LetterCase.upper c
  | lower => LetterCase.lower c

/-- A text with its letters in a form, and its first one in another one. -/
def inForm (form first : LetterForm) : Text → Text
  | [] => []
  | c :: t => (if first = .asIs then form else first).apply c :: t.map form.apply

/-- What pieces come to, where `found` gives what groups have found, and a form waits for the first letter. -/
def fillIn (found : Nat → Text) : (waiting : LetterForm) → List Piece → Text
  | _, [] => []
  | waiting, p :: ps =>
    let first := if p.first = .asIs then waiting else p.first
    let text := inForm p.form first p.text
    let first := if p.text = [] then first else .asIs
    match p.group with
    | none => text ++ fillIn found .asIs ps
    | some n =>
      let t := found n
      if t = [] then text ++ fillIn found (if p.first = .asIs then .asIs else first) ps
      else text ++ inForm p.form first t ++ fillIn found .asIs ps

end Buildfile.Editing
