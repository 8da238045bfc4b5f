import Buildfile.Workspace.Shell.Builtin.Output
import Buildfile.Workspace.Shell.Lookup
/-!
# Builtins about names of commands

Aliases are set and shown, and it is told what names stand for.
-/

namespace Buildfile.Shell

/-- Complains that an alias is not known. -/
def missingAlias (builtin name : Text) : Act Unit := tell (builtin ++ lit ": " ++ name ++ lit " not found\n")

/-- Sets aliases or shows them; without arguments, shows all. -/
def aliasing : Builtin := fun args => do
  if args = [] then
    for (name, value) in inRows rowCount (← get).aliases.entries do
      sayLine (aliasLine name value)
  let mut status := 0
  for a in args do
    let name := a.take 1 ++ (a.drop 1).takeWhile (· != '=')
    if name.length < a.length then
      modify fun s => { s with aliases := s.aliases.set name (a.drop (name.length + 1)) }
    else match (← get).aliases.get? a with
      | some v => sayLine (aliasLine a v)
      | none =>
        missingAlias (lit "alias") a
        status := 1
  return status

/-- Forgets aliases. -/
def unalias : Builtin := fun args => do
  let (given, names) ← optionsOf ['a'] args
  if !given.isEmpty then
    modify fun s => { s with aliases := {} }
    return 0
  let mut status := 0
  for a in names do
    if ((← get).aliases.get? a).isSome then modify fun s => { s with aliases := s.aliases.erase a }
    else
      missingAlias (lit "unalias") a
      status := 1
  return status

/-- The number of rows in which programs that were found are kept. -/
def foundRows : Nat := 31

/-- Looks for programs, or shows those that were found before; the option `-r` makes the shell forget them. -/
def hash : Builtin := fun args => do
  let (given, names) ← optionsOf ['r'] args
  if !given.isEmpty then
    modify fun s => { s with found := {} }
    return 0
  let mut status := 0
  for n in names do
    modify fun s => { s with found := s.found.erase n }
    if let .unknown e ← meaningOf n then
      warn (n ++ lit ": " ++ reasonText (lit "not found") e)
      status := 1
  if names = [] then
    let s ← get
    for (name, index, again) in inRows foundRows s.found.entries do
      let path := ((candidatePaths s.searchText name)[index]?).getD name
      sayLine (path ++ if again then ['*'] else [])
  return status

/-- Tells what names stand for. -/
def typeOf : Builtin := fun args => do
  let mut status : Int := 0
  for a in args do
    let n ← describe true none a
    if n ≠ 0 then status := n
  return status

/-- Tells what a name stands for, if it is asked for by an option. -/
def command : Builtin := fun args => do
  let (given, names) ← optionsOf ['p', 'v', 'V'] args
  let asks (c : Char) : Bool := given.any (·.1 = c)
  match names with
  | name :: _ =>
    if asks 'v' ∨ asks 'V' then describe (asks 'V') (if asks 'p' then some standardPath else none) name else return 0
  | [] => return 0

end Buildfile.Shell
