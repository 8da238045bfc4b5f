import Buildfile.Rule
/-!
# Failures

What can go wrong is named by its cause: a description that cannot be read or understood, a name
that nothing builds, a cycle, a command that fails, a dependency that fails. The wording of each is
in `BuildError.message`, and `BuildError.title` is the heading it is reported under.

`BuildError.message_eq` says that the message of nested dependency failures names each dependency
from the outermost inwards and ends with the message of the innermost cause.
-/

namespace Buildfile

/-- What is reported about a build that did not succeed. -/
inductive BuildError where
  /-- A failure of no particular kind. -/
  | general (text : Text)
  /-- The description at `path` cannot be opened or decoded. -/
  | unreadable (path reason : Text)
  /-- A line of the description at `path` cannot be understood. -/
  | malformed (path : Text) (line : Int) (detail : Text)
  /-- No rule, no pattern and no file has this name. -/
  | unknownTarget (target : Name)
  /-- `target` needs itself, along `chain`. -/
  | circular (target : Name) (chain : List Name)
  /-- A command could not be started, or ended with a status other than zero. -/
  | commandFailed (command : Text) (target : Option Name) (status : Option Int) (reason : Option Text)
  /-- A dependency of `target` could not be built. -/
  | dependencyFailed (target dependency : Name) (cause : BuildError)
  deriving DecidableEq, Repr, Inhabited

namespace BuildError

/-- The innermost cause of nested dependency failures. -/
def root : BuildError → BuildError
  | dependencyFailed _ _ cause => cause.root
  | e => e

/-- The targets and dependencies of nested dependency failures, from the outermost inwards. -/
def path : BuildError → List (Name × Name)
  | dependencyFailed t d cause => (t, d) :: cause.path
  | _ => []

/-- The heading of an error other than a dependency failure. -/
def heading : BuildError → Text
  | general _ => lit "Build failed"
  | unreadable _ _ => lit "Cannot read build description"
  | malformed _ _ _ => lit "Invalid build description"
  | unknownTarget _ => lit "Unknown target"
  | circular _ _ => lit "Circular dependency"
  | commandFailed _ _ _ _ => lit "Command failed"
  | dependencyFailed _ _ _ => lit "Build failed"

/-- The heading of an error: a dependency failure has that of its innermost cause. -/
def title (e : BuildError) : Text := e.root.heading

/-- The text before a target's own message; an absent or empty target has none. -/
def targetMark : Option Name → Text
  | none | some [] => []
  | some t => '[' :: t ++ lit "] "

/-- Why a command failed: its status if it ran, else the reason it was not started. -/
def commandCause : Option Int → Option Text → Text
  | some s, _ => lit ": exit status " ++ Text.ofInt s
  | none, none | none, some [] => []
  | none, some r => lit ": " ++ r

/-- The chain of a cycle as shown after its target. -/
def chainMark : List Name → Text
  | [] => []
  | ns => lit " (" ++ (lit " -> ").intercalate ns ++ [')']

/-- What precedes the message of the cause when `dependency` failed. -/
def dependencyMark (dependency : Name) : Text :=
  lit "error in dependency '" ++ dependency ++ lit "': "

/-- The wording of an error. -/
def message : BuildError → Text
  | general text => text
  | unreadable p r => lit "error opening makefile '" ++ p ++ lit "': " ++ r
  | malformed p line detail => p ++ ':' :: Text.ofInt line ++ lit ": " ++ detail
  | unknownTarget t => lit "target '" ++ t ++ lit "' not found"
  | circular t chain => lit "circular dependency detected for target '" ++ t ++ '\'' :: chainMark chain
  | commandFailed c t s r =>
    targetMark t ++ lit "error executing command '" ++ c ++ '\'' :: commandCause s r
  | dependencyFailed _ d cause => dependencyMark d ++ cause.message

/-- The message names each dependency on the way and ends with the innermost cause. -/
theorem message_eq (e : BuildError) :
    e.message = e.path.flatMap (fun p => dependencyMark p.2) ++ e.root.message := by
  induction e with
  | dependencyFailed t d cause ih =>
    rw [message, path, root, ih, List.flatMap_cons, List.append_assoc]
  | _ => rfl

end BuildError

/-- A failure outside what the program reports: the system or a command's environment gave way. -/
inductive Crash where
  /-- A value that an interface does not take. -/
  | invalid (message : Text)
  /-- What was to become the present directory is none. -/
  | noDirectory (message : Text)
  /-- Anything else that stops a thread of work. -/
  | raised (message : Text)
  deriving DecidableEq, Repr, Inhabited

/-- The wording of a crash. -/
def Crash.message : Crash → Text
  | invalid m | noDirectory m | raised m => m

/-- What is said of a text that holds the character U+0000 where the system takes none. -/
def Crash.embeddedNul : Crash := .invalid (lit "embedded null byte")

/-- What is said when calls are nested deeper than the host allows. -/
def Crash.nestedTooDeep : Crash := .raised (lit "maximum recursion depth exceeded")

/-- Why a piece of work did not succeed. -/
inductive Failure where
  | error (e : BuildError)
  | crash (c : Crash)
  deriving DecidableEq, Repr, Inhabited

/-- How a piece of work ended: with a failure, or without one. -/
abbrev Outcome := Option Failure

end Buildfile
