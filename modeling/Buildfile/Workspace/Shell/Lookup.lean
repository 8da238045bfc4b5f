import Buildfile.Workspace.Launch
import Buildfile.Workspace.Shell.Variables
/-!
# What commands stand for

The name of a command stands for a function, for a builtin, or for a program in one of the directories of
`PATH`. The shell remembers in which directory it has found a program.
-/

namespace Buildfile.Shell

/-- The builtins whose faults do not end the shell. -/
def regularNames : List Text :=
  [lit "alias", lit "bg", lit "cd", lit "chdir", lit "command", lit "echo", lit "false", lit "fg", lit "getopts",
   lit "hash", lit "jobs", lit "kill", lit "printf", lit "pwd", lit "read", lit "test", lit "true", lit "type",
   lit "ulimit", lit "umask", lit "unalias", lit "wait", ['[']]

/-- The builtins whose arguments may be assignments. -/
def declaringNames : List Text := [lit "alias", lit "export", lit "local", lit "readonly"]

/-- Whether a name is the one of a builtin. -/
def isBuiltin (name : Text) : Bool := specialBuiltins.contains name || regularNames.contains name

/-- What a command stands for. -/
inductive Meaning where
  | function (f : Function)
  | builtin
  /-- A program in the directory with a number, or at the path that the name is. -/
  | program (index : Option Nat)
  | unknown (reason : Errno)
  deriving Inhabited

/-- The paths at which a program may be. -/
def candidatePaths (path name : Text) : List Text :=
  (Text.pieces (· == ':') path).map fun d => if d = [] then name else d ++ '/' :: name

/-- The number of the first of some paths at which there is a program, or the reason why there is none. -/
def findProgram (t : Tree) (here : Place) : List Text → (index : Nat) → (reason : Errno) → Except Errno Nat
  | [], _, reason => .error reason
  | p :: ps, index, reason =>
    match t.nodeOf here p with
    | .error e => findProgram t here ps (index + 1) (if e = .noEntry ∨ e = .notDirectory then reason else e)
    | .ok n =>
      let isFile : Bool := match n.content with
        | .file _ | .program _ => true
        | _ => false
      if isFile ∧ n.mayExecute then .ok index else findProgram t here ps (index + 1) .accessDenied

/-- What a command stands for, where programs are looked for in `path` or else in `PATH`. Functions do not count if
`bare`. -/
def meaningOf (name : Text) (bare : Bool := false) (path : Option Text := none) : Act Meaning := do
  let s ← get
  if '/' ∈ name then return .program none
  if !bare then
    if let some f := s.functions.get? name then return .function f
  if isBuiltin name then return .builtin
  let look (path : Text) : Act (Except Errno Nat) :=
    (Program.inTree fun t here => findProgram t here (candidatePaths path name) 0 .noEntry : Program (Except Errno Nat))
  match path with
  | some p =>
    match ← look p with
    | .ok n => return .program (some n)
    | .error e => return .unknown e
  | none =>
    match s.found.get? name with
    | some (n, false) => return .program (some n)
    | _ =>
      match ← look s.searchText with
      | .ok n =>
        modify fun s => { s with found := s.found.set name (n, false) }
        return .program (some n)
      | .error e =>
        modify fun s => { s with found := s.found.erase name }
        return .unknown e

/-- How the shell words that a file cannot be used. -/
def reasonText (missing : Text) (e : Errno) : Text := if e = .noEntry ∨ e = .notDirectory then missing else e.message

/-- The status of a program that cannot be started. -/
def refusedStatus (e : Errno) : Int :=
  if e = .noEntry ∨ e = .notDirectory ∨ e = .tooManyLevels ∨ e = .nameTooLong then 127 else 126

/-- Tries to become the program at one of several paths; the last reason that is not the absence of a file is
given if that cannot be. -/
def tryPaths (arguments : List Text) (environment : Environment) : List Text → (reason : Errno) → Program Errno
  | [], reason => return reason
  | p :: ps, reason => do
    let e ← Program.executeFile p arguments environment
    tryPaths arguments environment ps (if e = .noEntry ∨ e = .notDirectory then reason else e)

/-- Becomes a program that is looked for from the directory with a number on, or leaves the shell. -/
def becomeProgram {α : Type} (arguments : List Text) (path : Text) (index : Nat) : Act α := do
  let s ← get
  let name := arguments.headD []
  let paths := if '/' ∈ name then [name] else (candidatePaths path name).drop index
  let e ← (tryPaths arguments s.environment paths .noEntry : Program Errno)
  setStatus (refusedStatus e)
  warn (name ++ lit ": " ++ reasonText (lit "not found") e)
  throw .finished

/-! ## Descriptions -/

/-- An alias as it would be set. -/
def aliasLine (name value : Text) : Text := name ++ '=' :: singleQuoted value

/-- Tells what a command is, or only how it is called unless `full`. -/
def describe (full : Bool) (path : Option Text) (name : Text) : Act Int := do
  let s ← get
  let answer (words called : Text) : Act Int := do
    sayLine (if full then name ++ words else called)
    return 0
  if keywords.contains name then answer (lit " is a shell keyword") name
  else if let some v := s.aliases.get? name then answer (lit " is an alias for " ++ v) (lit "alias " ++ aliasLine name v)
  else
    let tracked := s.found.get? name
    let meaning ← match tracked with
      | some (n, _) => pure (.program (some n))
      | none => meaningOf name false path
    match meaning with
    | .function _ => answer (lit " is a shell function") name
    | .builtin =>
      answer (if specialBuiltins.contains name then lit " is a special shell builtin" else lit " is a shell builtin") name
    | .program none =>
      let there ← (Program.inTree fun t here => t.contains here name : Program Bool)
      if there then answer (lit " is " ++ name) name else notFound name
    | .program (some n) =>
      let p := ((candidatePaths (path.getD s.searchText) name)[n]?).getD name
      answer ((if tracked.isSome then lit " is a tracked alias for " else lit " is ") ++ p) p
    | .unknown _ => notFound name
where
  /-- Says that there is no such command. -/
  notFound (name : Text) : Act Int := do
    if full then sayLine (name ++ lit ": not found")
    return 127

end Buildfile.Shell
