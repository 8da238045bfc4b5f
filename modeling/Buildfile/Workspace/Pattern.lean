import Buildfile.Workspace.Regex
/-!
# Patterns

In a pattern a star stands for any text, a question mark for any character, and brackets for one of several
characters. A quoted character stands for itself. Patterns choose among names and words.
-/

namespace Buildfile

/-- Text that remembers which of its characters are quoted. -/
abbrev Marked := List (Char × Bool)

/-- Text with the same quotes everywhere. -/
def Marked.ofText (quoted : Bool) (t : Text) : Marked := t.map (·, quoted)

/-- Marked text without its marks. -/
def Marked.text (m : Marked) : Text := m.map (·.1)

/-- A part of a pattern. -/
inductive PatternPart where
  | character (c : Char)
  | anyCharacter
  | anyText
  /-- One of some characters, or none of them. -/
  | oneOf (negated : Bool) (items : List BracketItem)
  deriving DecidableEq, Inhabited

/-- A pattern. -/
abbrev Pattern := List PatternPart

namespace Pattern

/-- Whether an item in brackets stands for a character; classes hold only those of seven bits. -/
def itemAccepts (c : Char) : BracketItem → Bool
  | .range a b => a ≤ c && c ≤ b
  | .named k => c.toNat < 0x80 && k.holds c

/-- Whether a part of a pattern matches a character. -/
def accepts : PatternPart → Char → Bool
  | .character d, c => c == d
  | .anyCharacter, _ => true
  | .anyText, _ => true
  | .oneOf negated items, c => items.any (itemAccepts c) != negated

/-- Whether what is left of a text somewhere satisfies `p`. -/
def anyEnd (p : Text → Bool) : Text → Bool
  | [] => p []
  | c :: t => p (c :: t) || anyEnd p t

/-- Whether a pattern matches a whole text. -/
def covers : Pattern → Text → Bool
  | [], t => t.isEmpty
  | .anyText :: .anyText :: ps, t => covers (.anyText :: ps) t
  | .anyText :: ps, t => anyEnd (covers ps) t
  | _ :: _, [] => false
  | p :: ps, c :: t => accepts p c && covers ps t

/-- The name of a class after its bracket and colon, and what comes after it. -/
def className? (m : Marked) : Option (CharClass × Marked) :=
  let name := m.takeWhile fun c => c.1.isAlpha && !c.2
  match m.drop name.length with
  | (':', false) :: (']', false) :: rest => (CharClass.ofName? (Marked.text name)).map (·, rest)
  | _ => none

/-- The items between brackets and what comes after the closing one, which may come first to stand for itself.
The first argument bounds the length. -/
def items? : Nat → (first : Bool) → Marked → Option (List BracketItem × Marked)
  | 0, _, _ | _ + 1, _, [] => none
  | k + 1, first, (c, quoted) :: m =>
    if c = ']' ∧ !quoted ∧ !first then some ([], m)
    else match if c = '[' ∧ !quoted ∧ m.head? = some (':', false) then className? (m.drop 1) else none with
      | some (name, rest) => (items? k false rest).map fun r => (.named name :: r.1, r.2)
      | none =>
        match m with
        | ('-', false) :: (d, q) :: rest =>
          if d = ']' ∧ !q then (items? k false m).map fun r => (.range c c :: r.1, r.2)
          else (items? k false rest).map fun r => (.range c d :: r.1, r.2)
        | _ => (items? k false m).map fun r => (.range c c :: r.1, r.2)

/-- The pattern that marked text of a bounded length is. A bracket that is not closed stands for itself. The
characters in `marks` negate brackets. -/
def ofMarkedWithin (marks : List Char) : Nat → Marked → Pattern
  | 0, _ | _ + 1, [] => []
  | k + 1, (c, true) :: m => .character c :: ofMarkedWithin marks k m
  | k + 1, ('*', false) :: m => .anyText :: ofMarkedWithin marks k m
  | k + 1, ('?', false) :: m => .anyCharacter :: ofMarkedWithin marks k m
  | k + 1, ('[', false) :: m =>
    let negated := m.head?.any fun c => c.1 ∈ marks && !c.2
    match items? (m.length + 1) true (if negated then m.drop 1 else m) with
    | some (items, rest) => .oneOf negated items :: ofMarkedWithin marks k rest
    | none => .character '[' :: ofMarkedWithin marks k m
  | k + 1, (c, false) :: m => .character c :: ofMarkedWithin marks k m

/-- The pattern that marked text is. -/
def ofMarked (m : Marked) (marks : List Char := ['!']) : Pattern := ofMarkedWithin marks m.length m

/-- Text in which a backslash quotes the character after it. -/
def unquoted : Text → Marked
  | '\\' :: c :: t => (c, true) :: unquoted t
  | c :: t => (c, false) :: unquoted t
  | [] => []

/-- The pattern that a text is for utilities, in which brackets are negated by two characters. -/
def ofText (t : Text) : Pattern := ofMarked (unquoted t) ['!', '^']

/-- A text without the part at its start or its end that a pattern matches, the longest or the shortest
one. -/
def trim (start longest : Bool) (p : Pattern) (t : Text) : Text :=
  let lengths := List.range (t.length + 1)
  let found (n : Nat) : Bool := covers p (if start then t.take n else t.drop (t.length - n))
  match (if longest then lengths.reverse else lengths).find? found with
  | none => t
  | some n => if start then t.drop n else t.take (t.length - n)

end Pattern

end Buildfile
