import Buildfile.Workspace.Regex.Reader
/-!
# Scripts of an editor of streams

A script is a row of commands, each of which looks at the lines that its addresses select. Blocks are commands too:
the one that opens a block knows where the block ends, so that lines which it does not select go on from there.
-/

namespace Buildfile.Editing

/-- What is looked for: an expression with the number of its groups, or the one that was looked for last. -/
structure Sought where
  expression : Option (Regex × Nat) := none
  mode : Regex.Mode := {}
  deriving DecidableEq, Inhabited

/-- An address. -/
inductive Address where
  | line (n : Nat)
  /-- The first line and every one so many lines later. -/
  | every (first step : Nat)
  | last
  | found (s : Sought)
  /-- So many lines after the start of a range. -/
  | after (n : Nat)
  /-- The first line after the start of a range whose number is a multiple. -/
  | multiple (n : Nat)
  deriving DecidableEq, Inhabited

/-- Letters as they are, or in one form. -/
inductive LetterForm where
  | asIs
  | upper
  | lower
  deriving DecidableEq, Inhabited

/-- A part of a replacement: a text and what a group has found, with the form of their letters and of the first of
them. -/
structure Piece where
  form : LetterForm := .asIs
  first : LetterForm := .asIs
  text : Text := []
  group : Option Nat := none
  deriving DecidableEq, Inhabited

/-- A replacement of what is found. -/
structure Substitution where
  sought : Sought
  pieces : List Piece
  /-- Whether all that is found is replaced, or only one thing; and which one is the first to be replaced. -/
  all : Bool := false
  from? : Option Nat := none
  /-- Whether the result is carried out, and whether the line is printed before that and after it. -/
  evaluates : Bool := false
  printsBefore : Bool := false
  printsAfter : Bool := false
  file : Option Text := none
  deriving DecidableEq, Inhabited

/-- When a branch is taken: always, if something has been replaced, or if nothing has. -/
inductive When where
  | always
  | replaced
  | notReplaced
  deriving DecidableEq, Inhabited

/-- What a command does. -/
inductive Action where
  | openBlock (past : Nat)
  | closeBlock
  | label
  | branch (w : When) (label : Text)
  | append (t : Text)
  | insert (t : Text)
  | change (t : Text)
  | showNumber
  | showName
  | delete
  | deleteFirst
  /-- Carries out a text, or the line. -/
  | execute (t : Text)
  | get
  | getMore
  | hold
  | holdMore
  | exchange
  | list (width : Option Nat)
  | next
  | nextMore
  | print
  | printFirst
  | quit (status : Nat) (shows : Bool)
  | readFile (name : Text)
  | readLine (name : Text)
  | substitute (s : Substitution)
  | write (name : Text)
  | writeFirst (name : Text)
  | translate (pairs : List (Char × Char))
  | empty
  /-- A letter that is known and does nothing any more. -/
  | unsupported (c : Char)
  deriving DecidableEq, Inhabited

namespace Action

/-- The action with the text that it has been waiting for. -/
def withText (t : Text) : Action → Action
  | append _ => append t
  | insert _ => insert t
  | change _ => change t
  | execute _ => execute t
  | a => a

/-- The files that an action writes to. -/
def targets : Action → List Text
  | write name | writeFirst name => [name]
  | substitute s => s.file.toList
  | _ => []

end Action

/-- A command. -/
structure Command where
  first : Option Address := none
  second : Option Address := none
  negated : Bool := false
  action : Action := .label
  deriving DecidableEq, Inhabited

/-- A script. -/
structure Script where
  commands : Array Command := #[]
  /-- Where labels stand, the latest first. -/
  labels : List (Text × Nat) := []
  /-- Whether lines are not printed unless a command says so. -/
  quiet : Bool := false
  deriving Inhabited

namespace Script

/-- The labels that are branched to and stand nowhere. -/
def missingLabels (s : Script) : List Text :=
  s.commands.toList.filterMap fun c => match c.action with
    | .branch _ l => if l = [] ∨ (s.labels.lookup l).isSome then none else some l
    | _ => none

/-- Where a branch to a label leads; without a label, to the end. -/
def place (s : Script) (label : Text) : Nat := if label = [] then s.commands.size else (s.labels.lookup label).getD s.commands.size

/-- The files that are written to. -/
def targets (s : Script) : List Text := (s.commands.toList.flatMap fun c => c.action.targets).eraseDups

end Script

end Buildfile.Editing
