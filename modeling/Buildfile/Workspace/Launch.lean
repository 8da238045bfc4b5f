import Buildfile.Workspace.Interpreter
import Buildfile.Workspace.Process
import Buildfile.Workspace.Search
/-!
# Executing programs

A task executes the file at a path: a program of the system, or a script whose first line names the program
that runs it. The task keeps its directory and its descriptors, but for those that it wants closed, and the
signals that it ignores.
-/

namespace Buildfile.Launch

open Search

/-- The programs of the system, by their names. -/
abbrev Programs := Text → Process

/-- The most bytes of an argument or a variable, with the zero byte at its end. -/
def maxString : Nat := 131072

/-- The most bytes of the arguments and variables of a program, with a pointer to each. -/
def maxStrings : Nat := 2097152

/-- The number of bytes of a pointer. -/
def pointerSize : Nat := 8

/-- Whether a program can be given its arguments and its environment. -/
def fits (path : Text) (arguments : List Text) (environment : Environment) : Bool :=
  let strings := arguments ++ environment.entries.map fun e => e.1 ++ '=' :: e.2
  let sizes := strings.map fun s => s.length + 1
  sizes.all (· ≤ maxString) && sizes.foldl (· + · + pointerSize) (path.length + 1) ≤ maxStrings

/-- The most scripts of which each is the interpreter of the one before. -/
def maxScripts : Nat := 5

/-- The program that a file is run by, through at most so many scripts, and its arguments. -/
def resolve (t : Tree) (here : Place) : (scripts : Nat) → (path : Text) → List Text → Node →
    Except Errno (Text × List Text)
  | scripts, path, arguments, n =>
    match n.content with
    | .program name => .ok (name, arguments)
    | .file content =>
      match Interpreter.ofScript? content with
      | none => .error .noExec
      | some i =>
        match executable t here i.path with
        | .error e => .error e
        | .ok n =>
          match scripts with
          | 0 => .error .tooManyLevels
          | scripts + 1 => resolve t here scripts i.path (i.path :: i.argument.toList ++ path :: arguments.drop 1) n
    | _ => .error .accessDenied

/-- The task as it is once it has become a program. -/
def renewed (t : Task) (arguments : List Text) (environment : Environment) : Task :=
  { t with
    arguments, environment
    descriptors := ⟨t.descriptors.entries.filter fun d => !d.2.closes⟩
    dispositions := ⟨t.dispositions.entries.filter (·.2 = .ignored)⟩
    pending := [] }

/-- The system in which a task has become the program at a path, and what the task does then. -/
def execute (programs : Programs) (s : System) (p : Nat) (path : Text) (arguments : List Text)
    (environment : Environment) : Except Errno (System × Process) := do
  let here := (s.task p).here
  let n ← executable s.tree here path
  if !fits path arguments environment then throw .listTooLong
  let (name, arguments) ← resolve s.tree here maxScripts path arguments n
  return (s.changeTask p (renewed · arguments environment), programs name)

/-- Executes the program with a name that is looked for in the path, in the same way. -/
def search (programs : Programs) (s : System) (p : Nat) (arguments : List Text) (environment : Environment) :
    Except Errno (System × Process) :=
  firstOf (fun path => execute programs s p path arguments environment)
    (candidates environment (arguments.headD [])) .noEntry

end Buildfile.Launch

namespace Buildfile.Program

/-- The shell that runs a file which is no program. -/
def standardShell : Text := lit "/bin/sh"

/-- Tries to become the program at a path, or a shell that runs the file there if it is no program; the reason is
given if that cannot be. -/
def executeFile (path : Text) (arguments : List Text) (environment : Environment) : Program Errno := do
  match ← execute path arguments environment with
  | .noExec => execute standardShell (standardShell :: path :: arguments.drop 1) environment
  | e => return e

/-- Tries to become the program at one of several paths. A file that must not be executed is the reason if there
is one and none of the others can be. -/
def executeFirst (arguments : List Text) (environment : Environment) : (denied : Bool) → List Text → Program Errno
  | denied, [] => return if denied then .accessDenied else .noEntry
  | denied, path :: paths => do
    match ← executeFile path arguments environment with
    | .accessDenied => executeFirst arguments environment true paths
    | .noEntry | .notDirectory => executeFirst arguments environment denied paths
    | e => return e

/-- Becomes the program with a name that is looked for in the path, and gives the reason if that cannot be. -/
def executeNamed (arguments : List Text) (environment : Environment) : Program Errno :=
  match arguments.headD [] with
  | [] => return .noEntry
  | program =>
    if '/' ∈ program then executeFile program arguments environment
    else executeFirst arguments environment false (Search.candidates environment program)

/-- The output of a shell that carries out a text. -/
def outputOf (script : Text) : Program Text := do
  let environment := (← task).environment
  let (reader, writer) ← makePipe
  let child ← fork do
    close reader
    moveDescriptor writer 1
    discard <| execute standardShell [lit "sh", lit "-c", script] environment
    return 127
  close writer
  let output ← readAll reader
  close reader
  discard <| wait (some child)
  return (output.toOption.getD [])

end Buildfile.Program
