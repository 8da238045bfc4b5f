import Buildfile.Host
import Buildfile.Text.Quoted
import Buildfile.Workspace.Layout
import Buildfile.Workspace.Workload
/-!
# Workspaces

A workspace is a present directory and an environment in a system of its own. `Workspace.host` is the host
that the library brings along: its programs run in that system, and what they leave behind stays in it, be it
files or processes.
-/

namespace Buildfile

/-- How the system words an error about a path or a program. -/
def Errno.report (e : Errno) (subject : Text) : Text :=
  lit "[Errno " ++ Text.ofNat e.number ++ lit "] " ++ e.message ++ lit ": " ++ Text.quoted subject

/-- A system, the present directory, and an environment. -/
structure Workspace where
  load : Workload := {}
  here : Place := Tree.root
  environment : Environment := {}
  deriving Inhabited

namespace Workspace

/-- The file tree. -/
def tree (w : Workspace) : Tree := w.load.system.tree

/-- The workspace with a file tree to start with. -/
def ofTree (tree : Tree) (here : Place) (environment : Environment := {}) : Workspace :=
  { load := { system := { tree } }, here, environment }

/-- What a path leads to. -/
def place (w : Workspace) (path : Text) : Except Errno Node := w.tree.nodeOf w.here (Octets.ofText path)

/-- What a path leads to, as far as a host knows. -/
def kind (w : Workspace) (path : Text) : PathKind :=
  if '\x00' ∈ path then .absent
  else match w.place path with
    | .error _ => .absent
    | .ok n =>
      match n.content with
      | .directory _ _ => .directory
      | .device _ => .device
      | _ => .file

/-- The bytes of a file. -/
def read (w : Workspace) (path : Text) : Except Refusal Bytes :=
  if '\x00' ∈ path then .error (.invalid .embeddedNul)
  else match w.tree.read w.here (Octets.ofText path) with
    | .error e => .error (.system (e.report path))
    | .ok b => .ok (Octets.toBytes b)

/-- The workspace with another present directory, or the reason why it cannot have that one. -/
def enter (path : Text) (w : Workspace) : Except Crash Workspace :=
  match w.tree.directoryOf w.here (Octets.ofText path) with
  | .ok p => .ok { w with here := p }
  | .error e => .error (.noDirectory (e.report path))

/-! ## Programs -/

/-- Whether the system does not take the values of a request. -/
def invalid? (r : Request) : Option Crash :=
  if r.bindings.keys.any ('=' ∈ ·) then some (.invalid (lit "illegal environment variable name"))
  else if (r.arguments ++ r.directory.toList ++ r.bindings.entries.flatMap (fun e => [e.1, e.2])).any ('\x00' ∈ ·) then
    some .embeddedNul
  else none

/-- The directory that a request names. -/
def directory (w : Workspace) (r : Request) : Except Text Place :=
  match r.directory with
  | none => .ok w.here
  | some d => (w.tree.directoryOf w.here (Octets.ofText d)).mapError fun e => e.report d

/-- The environment with the variables of a request. -/
def bound (e bindings : Environment) : Environment := bindings.entries.foldl (fun e v => e.set v.1 v.2) e

/-- What a program wrote, in the order in which it was written. -/
def writes (output : List (Bool × Text)) : List Write :=
  output.map fun w => (if w.1 then Write.commandErr else Write.commandOut) (Octets.toBytes w.2)

/-- Starts a program and waits until it ends. -/
def spawn (r : Request) (w : Workspace) : Spawned Workspace :=
  match invalid? r with
  | some c => { ending := .error (.invalid c), state := w }
  | none =>
    match w.directory r with
    | .error reason => { ending := .error (.system reason), state := w }
    | .ok here =>
      let environment := bound w.environment r.bindings
      let octets : Environment := ⟨environment.entries.map fun e => (Octets.ofText e.1, Octets.ofText e.2)⟩
      match w.load.start Programs.process here (r.arguments.map Octets.ofText) octets with
      | .error e => { ending := .error (.system (e.report (r.arguments.headD []))), state := w }
      | .ok (status, output, load) => { ending := .ok status, output := writes output, state := { w with load } }

/-- The host that a workspace is. -/
def host : Host Workspace := { kind, read, enter, spawn }

end Workspace

end Buildfile
