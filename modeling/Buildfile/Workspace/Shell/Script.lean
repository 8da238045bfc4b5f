import Buildfile.Text.Octets
/-!
# Scripts

What a script does is a tree: simple commands at the leaves, and above them pipes, conditions, loops and the
like. A word is kept in pieces, since quotes decide how what stands for a parameter or for the output of
commands is expanded; that output comes from a script of its own.

A document that a redirection reads stands below the line of the redirection, so that it is known only after
the line has been read. A redirection names it by its number among the documents of the script.
-/

namespace Buildfile.Shell

/-- What is done with a parameter that has no value. -/
inductive Fallback where
  /-- A word stands in its place. -/
  | word
  /-- A word stands in its place and becomes its value. -/
  | assign
  /-- The shell ends with a word as its complaint. -/
  | fail
  /-- Nothing stands in its place, but a word stands in the place of a value. -/
  | replace
  deriving DecidableEq, Inhabited

/-- How a redirection opens its target. -/
inductive Direction where
  | input
  | output
  /-- Like `output`, even if existing files are to be kept. -/
  | overwrite
  | append
  | both
  /-- The target is the number of a descriptor. -/
  | duplicate
  /-- A document of the script is read. -/
  | document (number : Nat)
  deriving DecidableEq, Inhabited

mutual

/-- A part of a word. -/
inductive Piece where
  | text (quoted : Bool) (t : Text)
  /-- What stands between quotation marks. -/
  | quotes (ps : List Piece)
  | parameter (name : Text) (use : Use)
  /-- The output of a script. -/
  | output (s : Script)
  /-- The value of an expression. -/
  | arithmetic (ps : List Piece)

/-- What is made of a parameter. -/
inductive Use where
  | value
  | length
  /-- If `orEmpty`, an empty value counts as none. -/
  | fallback (kind : Fallback) (orEmpty : Bool) (ps : List Piece)
  /-- The value without the part that a pattern matches at its start or its end. -/
  | trim (start longest : Bool) (ps : List Piece)
  /-- A use that is not known. -/
  | unknown

/-- A change of a descriptor. -/
inductive Redirection where
  | change (descriptor : Nat) (direction : Direction) (target : List Piece)

/-- What a part of a script does; numbers are lines. -/
inductive Action where
  | simple (line : Nat) (assignments : List (List Piece)) (words : List (List Piece)) (rs : List Redirection)
  /-- Something with redirections of its own. -/
  | redirected (line : Nat) (a : Action) (rs : List Redirection)
  /-- Something that leaves the state of the shell alone. -/
  | apart (line : Nat) (a : Action) (rs : List Redirection)
  /-- Something whose end is not waited for. -/
  | background (line : Nat) (a : Action) (rs : List Redirection)
  /-- Each reads what the one before it writes. -/
  | piped (background : Bool) (actions : List Action)
  | negated (a : Action)
  | sequence (a b : Action)
  /-- The second is done only if the first succeeds. -/
  | whenDone (a b : Action)
  /-- The second is done only if the first fails. -/
  | whenFailed (a b : Action)
  | ifElse (test yes : Action) (no : Option Action)
  /-- The body is done again as long as the test succeeds, or fails. -/
  | loop (succeeds : Bool) (test body : Action)
  /-- The body is done for every word. -/
  | forEach (line : Nat) (name : Text) (words : List (List Piece)) (body : Action)
  /-- The first arm with a pattern that matches the subject is done. -/
  | select (line : Nat) (subject : List Piece) (arms : List Arm)
  /-- A function gets its body. -/
  | define (name : Text) (body : Action)

/-- Patterns and what is done if one of them matches. -/
inductive Arm where
  | arm (patterns : List (List Piece)) (body : Option Action)

/-- What a script does, if anything, and its documents. -/
inductive Script where
  | script (action : Option Action) (documents : List (List Piece))

end

instance : Inhabited Piece := ⟨.text false []⟩
instance : Inhabited Use := ⟨.value⟩
instance : Inhabited Redirection := ⟨.change 0 .input []⟩
instance : Inhabited Action := ⟨.simple 0 [] [] []⟩
instance : Inhabited Arm := ⟨.arm [] none⟩
instance : Inhabited Script := ⟨.script none []⟩

/-- A word in its pieces. -/
abbrev Word := List Piece

namespace Piece

/-- The text of a piece that has no quotes and nothing to expand. -/
def plain? : Piece → Option Text
  | .text false t => some t
  | _ => none

/-- A piece before others; text alike in its quotes stays in one piece. -/
def before : Piece → List Piece → List Piece
  | .text q t, .text r u :: ps => if q = r then .text q (t ++ u) :: ps else .text q t :: .text r u :: ps
  | p, ps => p :: ps

end Piece

namespace Word

/-- The text of a word that has no quotes and nothing to expand. -/
def plain? : Word → Option Text
  | [p] => p.plain?
  | _ => none

/-- The text of a word whose pieces are text. -/
def bareText (w : Word) : Text :=
  w.flatMap fun p => match p with
    | .text _ t => t
    | .quotes ps => ps.flatMap fun p => match p with
      | .text _ t => t
      | _ => []
    | _ => []

end Word

/-! ## Names -/

/-- Whether a character may start the name of a variable. -/
def startsName (c : Char) : Bool := c.isAlpha || c == '_'

/-- Whether a character may stand in the name of a variable. -/
def isNameChar (c : Char) : Bool := c.isAlphanum || c == '_'

/-- Whether a text is the name of a variable. -/
def isName (t : Text) : Bool := t.head?.any startsName && t.all isNameChar

/-- The parameters with names of one character, but for the digits. -/
def specialNames : List Char := ['!', '#', '$', '*', '-', '?', '@']

/-- Whether a character is the name of a parameter. -/
def isSpecialName (c : Char) : Bool := c.isDigit || specialNames.contains c

/-- The name and the word of the value, if a word is an assignment. -/
def assignment? (w : Word) : Option (Text × Word) :=
  match w with
  | .text false t :: rest =>
    let name := t.takeWhile isNameChar
    match t.drop name.length with
    | '=' :: value => if isName name then some (name, if value = [] then rest else .text false value :: rest) else none
    | _ => none
  | _ => none

end Buildfile.Shell
