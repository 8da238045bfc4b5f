import Buildfile.Settings
import Buildfile.Workspace.Tree
/-!
# The search for programs

A program is named by a path, or by a name that stands for a file in one of the directories of `PATH`.
-/

namespace Buildfile.Search

/-- The directories in which programs are looked for, where `standard` holds if no variable says so. -/
def searchPath (standard : Text) (e : Environment) : List Text :=
  Text.pieces (· == ':') ((e.get? (lit "PATH")).getD standard)

/-- The directories in which programs are looked for if no variable says so. -/
def systemPath : Text := lit "/bin:/usr/bin"

/-- A name in a directory. -/
def joined (directory name : Text) : Text :=
  if directory = [] ∨ directory.getLast? = some '/' then directory ++ name else directory ++ '/' :: name

/-- The paths at which a program may be. -/
def candidates (e : Environment) (program : Text) : List Text :=
  if '/' ∈ program then [program] else (searchPath systemPath e).map (joined · program)

/-- The node of a file that may be executed. -/
def executable (t : Tree) (here : Place) (path : Text) : Except Errno Node :=
  match t.nodeOf here path with
  | .error e => .error e
  | .ok n =>
    match n.content with
    | .program _ | .file _ => if n.mayExecute then .ok n else .error .accessDenied
    | _ => .error .accessDenied

/-- Tries paths one after another until one does. If none does, the reason is the first one that is not the
absence of a file, or else the last one. -/
def firstOf {α : Type} (f : Text → Except Errno α) : List Text → Errno → Except Errno α
  | [], e => .error e
  | p :: ps, e =>
    match f p with
    | .ok a => .ok a
    | .error e' =>
      if e' = .noEntry ∨ e' = .notDirectory then firstOf f ps (if e = .noEntry ∨ e = .notDirectory then e' else e)
      else firstOf f ps (if e = .noEntry ∨ e = .notDirectory then e' else e)

end Buildfile.Search
