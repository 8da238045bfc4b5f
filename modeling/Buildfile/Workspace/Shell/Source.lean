import Buildfile.Table
import Buildfile.Workspace.Shell.Script
/-!
# Reading from a script

A script is read character by character. The value of an alias is read in front of the rest of the script, and
stays known as such until it has been read, so that an alias does not stand for itself. A backslash before a
line end joins two lines.
-/

namespace Buildfile.Shell

/-- Why a script cannot be read, and on which line. -/
structure Misread where
  line : Nat
  message : Text
  deriving DecidableEq, Inhabited

/-- A text that is being read: the script, or the value of an alias. -/
structure Layer where
  text : Text
  /-- The name of the alias. -/
  name : Option Text := none
  /-- Whether an alias may follow since the value ends with a blank. -/
  spaced : Bool := false
  deriving Inhabited

/-- The parts of a line. A word or a redirection is kept apart from its token. -/
inductive Token where
  | finish
  | newline
  | semicolon
  | background
  | both
  | either
  | pipe
  | opening
  | closing
  /-- The end of an arm. -/
  | armEnd
  | word
  | redirection
  /-- A word with a meaning of its own. -/
  | keyword (name : Text)
  deriving DecidableEq, Inhabited

namespace Token

/-- How faults call a token. -/
def shown : Token → Text
  | finish => lit "end of file"
  | newline => lit "newline"
  | semicolon => lit "\";\""
  | background => lit "\"&\""
  | both => lit "\"&&\""
  | either => lit "\"||\""
  | pipe => lit "\"|\""
  | opening => lit "\"(\""
  | closing => lit "\")\""
  | armEnd => lit "\";;\""
  | word => lit "word"
  | redirection => lit "redirection"
  | keyword k => '"' :: k ++ ['"']

end Token

/-- The words with a meaning of their own. -/
def keywords : List Text :=
  [lit "!", lit "case", lit "do", lit "done", lit "elif", lit "else", lit "esac", lit "fi", lit "for",
   lit "if", lit "in", lit "then", lit "until", lit "while", ['{'], ['}']]

/-- The words that end a list of commands. -/
def closers : List Text :=
  [lit "do", lit "done", lit "elif", lit "else", lit "esac", lit "fi", lit "then", ['}']]

/-- The builtins whose faults end the shell; no function has the name of one. -/
def specialBuiltins : List Text :=
  [lit ".", lit ":", lit "break", lit "continue", lit "eval", lit "exec", lit "exit", lit "export", lit "local",
   lit "readonly", lit "return", lit "set", lit "shift", lit "times", lit "trap", lit "unset"]

/-- What the next token may be. -/
structure Checks where
  /-- Line ends are left out. -/
  lineEnds : Bool := false
  keywords : Bool := false
  aliases : Bool := false
  /-- It is the mark of a document, in which nothing is expanded. -/
  mark : Bool := false
  deriving Inhabited

/-- A document that stands below the line that is being read. -/
structure Announced where
  /-- The line that ends it. -/
  mark : Text
  /-- Whether tabs at the start of its lines are left out. -/
  bare : Bool := false
  /-- Whether it is kept as it is. -/
  quoted : Bool := false
  deriving Inhabited

/-- What is left of a script, and what has been read of it. -/
structure Source where
  layers : List Layer
  line : Nat := 1
  aliases : Table Text Text := {}
  checks : Checks := {}
  /-- The last token, and whether it is to be read again. -/
  token : Token := .newline
  held : Bool := false
  /-- The last word, and whether a part of it is quoted. -/
  word : Word := []
  quoted : Bool := false
  /-- The descriptor and the direction of the last redirection, and whether its document loses its tabs. -/
  redirection : Nat × Direction × Bool := (0, .input, false)
  announced : List Announced := []
  /-- The documents, the latest first. -/
  documents : List Word := []
  /-- The document that is being read. -/
  inside : Option Announced := none
  deriving Inhabited

/-- A reading of a script. -/
abbrev Reading := StateT Source (Except Misread)

namespace Reading

/-- Refuses the script with a fault on its present line. -/
def refuse {α : Type} (fault : Text) : Reading α := do
  throw { line := (← get).line, message := lit "Syntax error: " ++ fault }

/-- The bound of a reading, which no script reaches. -/
def bound : Nat := 100000000

/-! ## Characters -/

/-- The next character, the layers after it, and whether an alias may follow. -/
def pop : List Layer → Option Char × List Layer × Bool
  | [] => (none, [], false)
  | [l] =>
    match l.text with
    | [] => (none, [l], false)
    | c :: t => (some c, [{ l with text := t }], false)
  | l :: ls =>
    match l.text with
    | c :: t => (some c, { l with text := t } :: ls, false)
    | [] =>
      let (c, ls, spaced) := pop ls
      (c, ls, spaced || l.spaced)

/-- Takes the next character. -/
def next : Reading (Option Char) := modifyGet fun s =>
  let (c, layers, spaced) := pop s.layers
  (c, { s with layers, checks := { s.checks with aliases := s.checks.aliases || spaced } })

/-- Gives a character back. -/
def unread : Option Char → Reading Unit
  | none => return ()
  | some c => modify fun s => { s with
      layers := match s.layers with
        | [] => [{ text := [c] }]
        | l :: ls => { l with text := c :: l.text } :: ls }

/-- Goes on to the next line. -/
def addLine : Reading Unit := modify fun s => { s with line := s.line + 1 }

/-- Takes the next character after at most so many joined lines. -/
def nextJoinedWithin : Nat → Reading (Option Char)
  | 0 => next
  | n + 1 => do
    match ← next with
    | some '\\' =>
      match ← next with
      | some '\n' =>
        addLine
        nextJoinedWithin n
      | c =>
        unread c
        return some '\\'
    | c => return c

/-- Takes the next character, where joined lines are one. -/
def nextJoined : Reading (Option Char) := nextJoinedWithin bound

/-- Takes the next character if it is a certain one. -/
def nextIf (c : Char) : Reading Bool := do
  let d ← nextJoined
  if d = some c then return true
  unread d
  return false

/-- Takes characters as long as they are of a kind, at most so many, after those that have been taken. -/
def takeWhile (p : Char → Bool) : Nat → (taken : Text) → Reading Text
  | 0, taken => return taken.reverse
  | n + 1, taken => do
    match ← nextJoined with
    | none => return taken.reverse
    | some c =>
      if p c then takeWhile p n (c :: taken)
      else
        unread (some c)
        return taken.reverse

/-! ## Documents -/

/-- Leaves out tabs, at most so many. -/
def skipTabs : Nat → Reading Unit
  | 0 => return ()
  | n + 1 => do
    match ← next with
    | some '\t' => skipTabs n
    | c => unread c

/-- Takes certain characters and the end of their line, if they are the rest of a line. -/
def takeRest : (mark : Text) → Reading Bool
  | [] => do
    match ← next with
    | none => return true
    | some '\n' =>
      addLine
      return true
    | c =>
      unread c
      return false
  | m :: mark => do
    match ← next with
    | none => return false
    | some c =>
      if c = m then
        if ← takeRest mark then return true
      unread (some c)
      return false

/-- Whether the document that is being read ends at the start of this line; then its mark is taken. -/
def endsDocument : Reading Bool := do
  match (← get).inside with
  | none => return false
  | some a =>
    if a.bare then skipTabs bound
    takeRest a.mark

/-- The lines of a document that is kept as it is, at most so many characters of them, after what has been
read. -/
def rawDocument : Nat → (taken : Text) → Reading Text
  | 0, taken => return taken.reverse
  | n + 1, taken => do
    match ← next with
    | none => return taken.reverse
    | some c =>
      if c = '\n' then
        addLine
        if ← endsDocument then return (c :: taken).reverse
      rawDocument n (c :: taken)

end Reading

end Buildfile.Shell
