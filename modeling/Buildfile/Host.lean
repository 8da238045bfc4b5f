import Buildfile.Console
import Buildfile.Settings
/-!
# Hosts

A host is what the program finds around it: paths that lead to something or not, files with their
bytes, a directory to work in, and programs that can be started. The rest of the library knows a
host by these four operations and by how deep it lets calls be nested, so what is shown of a build
holds on every host, whatever its programs do.

A message that needs calls nested deeper than that cannot be made (`Host.tells`).
-/

namespace Buildfile

/-- Why a host does not do what it is asked. -/
inductive Refusal where
  /-- The system gives this reason. -/
  | system (reason : Text)
  /-- The request holds a value that the system does not take. -/
  | invalid (c : Crash)
  deriving DecidableEq, Repr, Inhabited

/-- What a path leads to. -/
inductive PathKind where
  | absent
  | file
  | directory
  /-- Neither data nor a directory. -/
  | device
  deriving DecidableEq, Repr, Inhabited

/-- The start of a program. -/
structure Request where
  /-- The name of the program, and its arguments. -/
  arguments : List Text
  /-- The directory that the program works in, if not the present one. -/
  directory : Option Text := none
  /-- Variables that the program finds in its environment before the others. -/
  bindings : Environment := {}
  deriving DecidableEq, Repr, Inhabited

/-- What became of the start of a program. -/
structure Spawned (τ : Type) where
  /-- The status it ended with, or why it was not started. A status below zero names the signal that
  ended it. -/
  ending : Except Refusal Int
  /-- What it wrote. -/
  output : List Write := []
  /-- The host afterwards. -/
  state : τ

/-- What the program finds around it, with states in `τ`. -/
structure Host (τ : Type) where
  /-- What a path leads to. -/
  kind : τ → Text → PathKind
  /-- The bytes of a file. -/
  read : τ → Text → Except Refusal Bytes
  /-- Makes a directory the present one. -/
  enter : Text → τ → Except Crash τ
  /-- Starts a program and waits until it ends. -/
  spawn : Request → τ → Spawned τ
  /-- How many calls may be nested one in another to make a message, if there is a bound. -/
  nesting : Option Nat := none

/-- Whether the message of an error can be made. It takes one call more for each dependency on the way to the innermost
cause. -/
def Host.tells {τ : Type} (h : Host τ) (e : BuildError) : Bool := h.nesting.all (e.path.length ≤ ·)

/-- What a failure is once it is to be reported. An error whose message cannot be made is a crash then. -/
def Host.told {τ : Type} (h : Host τ) : Failure → Failure
  | .error e => if h.tells e then .error e else .crash .nestedTooDeep
  | .crash x => .crash x

end Buildfile
