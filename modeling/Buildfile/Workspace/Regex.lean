import Buildfile.Text.Alphanumeric
import Buildfile.Text.LetterCase
/-!
# Regular expressions

A regular expression describes texts. It is looked for in a text from left to right, and the longest text
that it describes from there on is what it finds, together with what its groups found.
-/

namespace Buildfile

/-- The classes of characters that have names. -/
inductive CharClass where
  | alpha
  | digit
  | alnum
  | upper
  | lower
  | space
  | blank
  | punct
  | print
  | graph
  | cntrl
  | xdigit
  deriving DecidableEq, Inhabited

namespace CharClass

/-- The class with a name. -/
def ofName? (t : Text) : Option CharClass :=
  [(lit "alpha", alpha), (lit "digit", digit), (lit "alnum", alnum), (lit "upper", upper), (lit "lower", lower),
   (lit "space", space), (lit "blank", blank), (lit "punct", punct), (lit "print", print), (lit "graph", graph),
   (lit "cntrl", cntrl), (lit "xdigit", xdigit)].lookup t

/-- Whether a character is in a class. -/
def holds : CharClass → Char → Bool
  | alpha, c => c.isAlpha || (c.toNat ≥ 0x80 && isAlphanumeric c)
  | digit, c => c.isDigit
  | alnum, c => c.isAlphanum || (c.toNat ≥ 0x80 && isAlphanumeric c)
  | upper, c => c.isUpper || (c.toNat ≥ 0x80 && LetterCase.lower c != c)
  | lower, c => c.isLower || (c.toNat ≥ 0x80 && LetterCase.upper c != c)
  | space, c => c == ' ' || ('\t' ≤ c && c ≤ '\r')
  | blank, c => c == ' ' || c == '\t'
  | punct, c => c.toNat < 0x7F && c > ' ' && !c.isAlphanum
  | print, c => (' ' ≤ c && c.toNat < 0x7F) || (c.toNat ≥ 0x80 && isPrintable c)
  | graph, c => (' ' < c && c.toNat < 0x7F) || (c.toNat ≥ 0x80 && isPrintable c)
  | cntrl, c => c < ' ' || c.toNat == 0x7F
  | xdigit, c => c.isDigit || ('a' ≤ c && c ≤ 'f') || ('A' ≤ c && c ≤ 'F')

end CharClass

/-- A part of a bracket expression. -/
inductive BracketItem where
  | range (first last : Char)
  | named (c : CharClass)
  deriving DecidableEq, Inhabited

/-- A regular expression. -/
inductive Regex where
  | empty
  | char (c : Char)
  | any
  | set (negated : Bool) (items : List BracketItem)
  /-- The start of the text, or of a line. -/
  | start
  /-- The end of the text, or of a line. -/
  | finish
  /-- The start of the text, and its end. -/
  | textStart
  | textFinish
  /-- The start of a word, its end, either of them, or neither. -/
  | wordStart
  | wordEnd
  | wordEdge
  | noWordEdge
  | group (n : Nat) (r : Regex)
  /-- What a group has found. -/
  | back (n : Nat)
  | seq (a b : Regex)
  | alt (a b : Regex)
  /-- So many times one after another. -/
  | times (r : Regex) (least : Nat) (most : Option Nat)
  deriving DecidableEq, Inhabited

namespace Regex

/-- How texts are looked at. -/
structure Mode where
  ignoreCase : Bool := false
  /-- Whether lines have starts and ends of their own. -/
  lines : Bool := false
  deriving DecidableEq, Inhabited

/-- A position in a text. -/
structure Cursor where
  /-- How many characters come before. -/
  index : Nat := 0
  before : Option Char := none
  rest : Text
  /-- What groups have found, the latest first: their numbers, and where it starts and ends. -/
  groups : List (Nat × Nat × Nat) := []
  deriving DecidableEq, Inhabited

namespace Cursor

/-- The position after the next character. -/
def next? (c : Cursor) : Option (Char × Cursor) :=
  match c.rest with
  | [] => none
  | x :: t => some (x, { c with index := c.index + 1, before := some x, rest := t })

/-- The position after so many characters. -/
def skip (n : Nat) (c : Cursor) : Cursor :=
  if n = 0 then c else { c with index := c.index + n, before := c.rest[n - 1]?, rest := c.rest.drop n }

end Cursor

/-- A character that is part of words. -/
def isWordChar (c : Char) : Bool := c == '_' || CharClass.alnum.holds c

/-- A letter in small and capital form. -/
def variants (c : Char) : List Char := [LetterCase.lower c, LetterCase.upper c]

/-- Whether two characters count as the same. -/
def alike (m : Mode) (a b : Char) : Bool := a == b || (m.ignoreCase && LetterCase.lower a == LetterCase.lower b)

/-- Whether a bracket expression holds a character. -/
def inSet (m : Mode) (items : List BracketItem) (c : Char) : Bool :=
  let holds (c : Char) : Bool := items.any fun i => match i with
    | .range a b => a ≤ c && c ≤ b
    | .named k => k.holds c
  holds c || (m.ignoreCase && (variants c).any holds)

/-- Positions without those that repeat the index of an earlier one. -/
def distinct (cs : List Cursor) : List Cursor :=
  (cs.foldl (fun (seen, kept) c => if seen.contains c.index then (seen, kept) else (c.index :: seen, c :: kept))
    (([] : List Nat), ([] : List Cursor))).2.reverse

/-- The positions that are reached by any number of steps with progress, at most as many as the first argument
says, those after more steps first. The list holds the positions found so far, the latest first. -/
def closure (step : Cursor → List Cursor) : Nat → Cursor → List Cursor → List Cursor
  | 0, c, found => c :: found
  | k + 1, c, found =>
    let found := ((step c).filter fun d => c.index < d.index).foldl
      (fun found d => if found.any (·.index = d.index) then found else closure step k d found) found
    if found.any (·.index = c.index) then found else c :: found

/-- The positions after so many steps, at least some and at most some more. -/
def counted (step : Cursor → List Cursor) : (least more : Nat) → Cursor → List Cursor
  | 0, 0, c => [c]
  | 0, more + 1, c =>
    distinct (((step c).filter fun d => c.index < d.index).flatMap (counted step 0 more) ++ [c])
  | least + 1, more, c => distinct ((step c).flatMap (counted step least more))

/-- Whether a position is at the edge of a word, and whether a word comes before it and after it. -/
def around (c : Cursor) : Bool × Bool := (c.before.any isWordChar, c.rest.head?.any isWordChar)

/-- The positions at which what a regular expression describes from a position on ends, the preferred ones
first. `whole` is the whole text. -/
def ends (m : Mode) (whole : Text) : Regex → Cursor → List Cursor
  | empty, c => [c]
  | char x, c => c.next?.toList.filterMap fun (y, d) => if alike m x y then some d else none
  | any, c => c.next?.toList.map (·.2)
  | set negated items, c => c.next?.toList.filterMap fun (y, d) => if inSet m items y != negated then some d else none
  | start, c => if c.before.isNone || (m.lines && c.before = some '\n') then [c] else []
  | finish, c => if c.rest.isEmpty || (m.lines && c.rest.head? = some '\n') then [c] else []
  | textStart, c => if c.before.isNone then [c] else []
  | textFinish, c => if c.rest.isEmpty then [c] else []
  | wordStart, c => if around c = (false, true) then [c] else []
  | wordEnd, c => if around c = (true, false) then [c] else []
  | wordEdge, c => if (around c).1 != (around c).2 then [c] else []
  | noWordEdge, c => if (around c).1 == (around c).2 then [c] else []
  | group n r, c => (ends m whole r c).map fun d => { d with groups := (n, c.index, d.index) :: d.groups }
  | back n, c =>
    match c.groups.lookup n with
    | none => []
    | some (a, b) =>
      let found := (whole.drop a).take (b - a)
      if found.length ≤ c.rest.length ∧ (found.zip c.rest).all fun p => alike m p.1 p.2 then [c.skip found.length] else []
  | seq a b, c => distinct ((ends m whole a c).flatMap (ends m whole b))
  | alt a b, c => distinct (ends m whole a c ++ ends m whole b c)
  | times r least most, c =>
    match most with
    | some n => counted (ends m whole r) least (n - least) c
    | none =>
      distinct ((counted (ends m whole r) least 0 c).flatMap fun d =>
        (closure (ends m whole r) (d.rest.length + 1) d []).reverse)

/-- The longest end, of equally long ones the first. -/
def longest : List Cursor → Option Cursor
  | [] => none
  | c :: cs => some (cs.foldl (fun best d => if best.index < d.index then d else best) c)

/-- What was found in a text: where it starts and ends, and what the groups found. -/
structure Match where
  first : Nat
  last : Nat
  groups : List (Nat × Nat × Nat) := []
  deriving DecidableEq, Inhabited

/-- What a regular expression finds at a position. -/
def matchAt? (m : Mode) (whole : Text) (r : Regex) (c : Cursor) : Option Match :=
  (longest (ends m whole r { c with groups := [] })).map fun d => { first := c.index, last := d.index, groups := d.groups }

/-- What a regular expression finds first from a position on, at most so many characters later. -/
def findFrom (m : Mode) (whole : Text) (r : Regex) : Nat → Cursor → Option Match
  | 0, c => matchAt? m whole r c
  | k + 1, c =>
    match matchAt? m whole r c with
    | some x => some x
    | none => c.next?.bind fun (_, d) => findFrom m whole r k d

/-- What a regular expression finds first in a text, after so many characters. -/
def find? (m : Mode) (r : Regex) (whole : Text) (offset : Nat := 0) : Option Match :=
  findFrom m whole r (whole.length - offset) (Cursor.skip offset { rest := whole })

namespace Match

/-- The text that was found. -/
def text (x : Match) (whole : Text) : Text := (whole.drop x.first).take (x.last - x.first)

/-- The text that a group found. Group zero is all that was found. -/
def groupText? (x : Match) (whole : Text) (n : Nat) : Option Text :=
  if n = 0 then some (x.text whole)
  else (x.groups.lookup n).map fun (a, b) => (whole.drop a).take (b - a)

end Match

end Regex

end Buildfile
