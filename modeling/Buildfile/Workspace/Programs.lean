import Buildfile.Workspace.Launch
import Buildfile.Workspace.Shell
import Buildfile.Workspace.Utility.Condition
import Buildfile.Workspace.Utility.Copying
import Buildfile.Workspace.Utility.Editing
import Buildfile.Workspace.Utility.Expr
import Buildfile.Workspace.Utility.Fields
import Buildfile.Workspace.Utility.Linking
import Buildfile.Workspace.Utility.Listing
import Buildfile.Workspace.Utility.Making
import Buildfile.Workspace.Utility.Printf
import Buildfile.Workspace.Utility.Reading
import Buildfile.Workspace.Utility.Removing
import Buildfile.Workspace.Utility.Searching
import Buildfile.Workspace.Utility.Seq
import Buildfile.Workspace.Utility.Sorting
import Buildfile.Workspace.Utility.Starting
/-!
# The programs of a workspace

Every program of the system by its name.
-/

namespace Buildfile.Programs

open Utility

/-- The utilities by their names. -/
def utilities : List (Text × Utility) :=
  [(lit "[", test), (lit "basename", basename), (lit "cat", cat), (lit "chmod", chmod), (lit "comm", comm),
   (lit "cp", cp), (lit "cut", cut), (lit "dir", dir), (lit "dirname", dirname), (lit "echo", echo),
   (lit "egrep", egrep), (lit "env", env), (lit "expand", expand), (lit "expr", Expr.expr),
   (lit "false", failing), (lit "fgrep", fgrep), (lit "fold", fold), (lit "grep", grep), (lit "head", head),
   (lit "install", install), (lit "join", join), (lit "link", link), (lit "ln", ln), (lit "ls", ls),
   (lit "mkdir", mkdir), (lit "mktemp", mktemp), (lit "mv", mv), (lit "nice", nice), (lit "nl", nl),
   (lit "nohup", nohup), (lit "paste", paste), (lit "printenv", printenv), (lit "printf", Printf.printf),
   (lit "pwd", pwd), (lit "readlink", readlink), (lit "realpath", realpath), (lit "rev", rev), (lit "rm", rm),
   (lit "rmdir", rmdir), (lit "sed", sed), (lit "seq", Utility.Seq.seq), (lit "sleep", sleep), (lit "sort", sort),
   (lit "stat", statUtility), (lit "tac", tac), (lit "tail", tail), (lit "tee", tee), (lit "test", test),
   (lit "timeout", timeout), (lit "touch", touch), (lit "tr", tr), (lit "true", succeed),
   (lit "truncate", truncate), (lit "unexpand", unexpand), (lit "uniq", uniq), (lit "unlink", unlink),
   (lit "vdir", vdir), (lit "wc", wc), (lit "xargs", xargs), (lit "yes", yes)]

/-- The names under which there is a shell. -/
def shells : List Text := [lit "dash", lit "sh"]

/-- The names of all programs. -/
def names : List Text := shells ++ utilities.map (·.1)

/-- What a program does. A name that stands for no program ends at once. -/
def process (name : Text) : Process :=
  if shells.contains name then Shell.process else (utilities.lookup name).elim (.finish 127) Utility.process

end Buildfile.Programs
