import Buildfile.Workspace.Utility.Choice
/-!
# Backups

A utility that replaces a file may keep the old one under another name: with a suffix, or with a number.
-/

namespace Buildfile.Utility

/-- How the names of backups are chosen. -/
inductive Backup where
  | none
  | simple
  /-- With a number if there is a backup with one already. -/
  | existing
  | numbered
  deriving DecidableEq, Inhabited

namespace Backup

/-- The options about backups. -/
def options : List Known := [flag 'b', named (lit "backup") .optional, valued 'S' (lit "suffix")]

/-- The words for the ways to choose names. -/
def choices : List (List Text) :=
  [[lit "none", lit "off"], [lit "simple", lit "never"], [lit "existing", lit "nil"], [lit "numbered", lit "t"]]

/-- The way that some options ask for. -/
def ofGiven (name : Text) (given : List Given) : Program Backup := do
  match lastOf? given [['b'], lit "backup", ['S']] with
  | Option.none => return .none
  | some _ =>
    let environment := (← Program.task).environment
    let word := ((value? given (lit "backup")).orElse fun _ => environment.get? (lit "VERSION_CONTROL")).getD (lit "existing")
    match ← choose name (lit "backup type") choices word with
    | 0 => return .none
    | 1 => return .simple
    | 2 => return .existing
    | _ => return .numbered

/-- The name of a file with a suffix. -/
def simpleName (suffix path : Text) : Text := path ++ suffix

/-- The number of the latest numbered backup of a file; zero if there is none. -/
def latest (t : Tree) (here : Place) (path : Text) : Nat :=
  let start := Path.base path ++ ['.', '~']
  let siblings := ((t.directoryOf here (Path.parent path)).toOption.map t.children).getD []
  (siblings.map fun s =>
    let inner := (s.drop start.length).dropLast
    if start.isPrefixOf s ∧ s.getLast? = some '~' then (decimal? inner).getD 0 else 0).foldl max 0

/-- The path that a file is kept at. -/
def pathFor (b : Backup) (suffix : Text) (t : Tree) (here : Place) (path : Text) : Text :=
  let n := latest t here path
  if b = .numbered ∨ (b = .existing ∧ n ≠ 0) then path ++ lit ".~" ++ Text.ofNat (n + 1) ++ ['~']
  else simpleName suffix path

/-- The suffix of simple backups. -/
def suffixOf (given : List Given) : Program Text := do
  let environment := (← Program.task).environment
  return ((value? given ['S']).orElse fun _ => environment.get? (lit "SIMPLE_BACKUP_SUFFIX")).filter (· ≠ []) |>.getD ['~']

end Backup

end Buildfile.Utility
