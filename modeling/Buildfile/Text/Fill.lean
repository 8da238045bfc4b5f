import Buildfile.Text.Alphanumeric
import Buildfile.Text.Numeral
/-!
# Filled text

A text is filled into lines of a given width by cutting it into chunks and putting as many of them on
a line as fit. Chunks end at blanks, after a hyphen between two words, and around a dash of two or
more hyphens; a chunk that is longer than a line is cut.

`chunks_flatten` says that the chunks of a text are all of it.
-/

namespace Buildfile.Text

/-! ## Chunks -/

/-- A blank at which a line may be broken. -/
def isBreakable (c : Char) : Bool := c == ' ' || (0x09 ≤ c.toNat && c.toNat ≤ 0x0D)

/-- A character of a word, punctuation left out. -/
def isWordChar (c : Char) : Bool := isAlphanumeric c || c == '_'

/-- A letter, for the rules on hyphens: a character of a word that is no decimal digit. -/
def isLetter (c : Char) : Bool := isWordChar c && (digitValue? c).isNone

/-- A character that can stand before a dash. -/
def endsClause (c : Char) : Bool := isWordChar c || ['!', '"', '\'', '&', '.', ',', '?'].contains c

/-- Whether a text starts with two letters, with at most one hyphen between. A hyphen at which a line
may be broken has such a text after it, and before it such a text read backwards. -/
def startsWord : Text → Bool
  | a :: '-' :: b :: _ => isLetter a && isLetter b
  | a :: b :: _ => isLetter a && isLetter b
  | _ => false

/-- Whether a text starts with a dash and a word. -/
def startsDash (t : Text) : Bool :=
  2 ≤ (t.takeWhile (· == '-')).length && ((t.dropWhile (· == '-')).head?).any isWordChar

/-- What the chunk that is being read is made of. -/
inductive ChunkKind where
  | start
  | blank
  | dash
  | word
  deriving DecidableEq, Repr, Inhabited

/-- What a chunk is made of that starts between `before`, the nearest first, and `t`. -/
def ChunkKind.of (before t : Text) : ChunkKind :=
  if t.head?.any isBreakable then .blank
  else if before.head?.any endsClause ∧ startsDash t then .dash
  else .word

/-- Whether a chunk of a kind is complete between `before`, the nearest first, and `t`. -/
def ChunkKind.ends (before t : Text) : ChunkKind → Bool
  | start => false
  | blank => !t.head?.any isBreakable
  | dash => t.head? != some '-'
  | word =>
    t.head?.any isBreakable || (before.head?.any endsClause && startsDash t) ||
      (before.head? == some '-' && startsWord (before.drop 1) && startsWord t)

/-- The chunks of the rest of a text: `chunk` is the chunk so far and `before` all that comes before
the rest, both with the nearest character first. -/
def chunksFrom (kind : ChunkKind) (chunk before : Text) : Text → List Text
  | [] => if chunk = [] then [] else [chunk.reverse]
  | c :: t =>
    if chunk ≠ [] ∧ kind.ends before (c :: t) then
      chunk.reverse :: chunksFrom (.of before (c :: t)) [c] (c :: before) t
    else chunksFrom (if chunk = [] then .of before (c :: t) else kind) (c :: chunk) (c :: before) t

/-- The chunks of a text. -/
def chunks (t : Text) : List Text := chunksFrom .start [] [] t

theorem chunksFrom_flatten (kind : ChunkKind) (chunk before t : Text) :
    (chunksFrom kind chunk before t).flatten = chunk.reverse ++ t := by
  induction t generalizing kind chunk before with
  | nil => by_cases h : chunk = [] <;> simp [chunksFrom, h]
  | cons c t ih =>
    simp only [chunksFrom]
    split
    · rw [List.flatten_cons, ih]; simp
    · rw [ih]; simp

/-- The chunks of a text are all of it. -/
theorem chunks_flatten (t : Text) : (chunks t).flatten = t := chunksFrom_flatten _ _ _ _

/-! ## Lines -/

/-- Whether a chunk is blank, so that it can be left out at the ends of a line. A chunk of blanks at
which no line may be broken is blank too. -/
def isBlankChunk (c : Text) : Bool := c.all isBlank

/-- As many chunks as fit in `room`, and the others. -/
def takeFitting : (room : Nat) → List Text → List Text × List Text
  | _, [] => ([], [])
  | room, c :: cs =>
    if c.length ≤ room then
      let (fit, rest) := takeFitting (room - c.length) cs
      (c :: fit, rest)
    else ([], c :: cs)

/-- A line without a blank chunk at its end. -/
def trimLine (l : List Text) : List Text := if l.getLast?.any isBlankChunk then l.dropLast else l

/-- The chunks of the next line, and the chunks after it. A chunk that is longer than a line fills up
what room there is. -/
def takeLine (width : Nat) (cs : List Text) : List Text × List Text :=
  let (fit, rest) := takeFitting width cs
  match rest with
  | [] => (trimLine fit, [])
  | c :: cs =>
    if width < c.length then
      let room := max 1 (width - fit.flatten.length)
      (trimLine (fit ++ [c.take room]), c.drop room :: cs)
    else (trimLine fit, c :: cs)

/-- The lines of some chunks, at most `n` of them; a blank chunk at the start of a later line is left
out, and so is a line without chunks. -/
def fillLines (width : Nat) (first : Bool) : (n : Nat) → List Text → List Text
  | 0, _ | _, [] => []
  | n + 1, c :: cs =>
    let kept := if !first ∧ isBlankChunk c then cs else c :: cs
    let (line, rest) := takeLine width kept
    if line = [] then fillLines width first n rest else line.flatten :: fillLines width false n rest

/-- A text without line breaks in lines of at most `width` characters. -/
def fill (width : Nat) (t : Text) : List Text := fillLines width true (2 * t.length + 1) (chunks t)

end Buildfile.Text
