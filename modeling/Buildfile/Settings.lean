import Buildfile.Table
import Buildfile.Text.Basic
/-!
# Settings

The environment gives the defaults that the command line can override: which description is read,
how many targets may run commands at once, and whether debug output is on.
-/

namespace Buildfile

/-- The variables of an environment. -/
abbrev Environment := Table Text Text

/-- The defaults of a command line. -/
structure Settings where
  /-- The target that is built when none is given. -/
  target : Text := lit "all"
  /-- The description that is read. -/
  description : Text := lit "Makefile"
  /-- The number of targets that may run commands at once, as written; none is no bound. -/
  jobs : Option Text := none
  debug : Bool := false
  deriving DecidableEq, Repr, Inhabited

/-- The values of a switch that turn it on, in small letters. -/
def switchedOn : List Text := [lit "1", lit "true", lit "yes"]

/-- The settings that an environment makes. An empty number of jobs counts as none. -/
def Settings.ofEnvironment (e : Environment) : Settings where
  description := (e.get? (lit "SMMAKE_FILE")).getD (lit "Makefile")
  jobs := (e.get? (lit "SMMAKE_JOBS")).filter (· ≠ [])
  debug := (((e.get? (lit "SMMAKE_DEBUG")).getD []).map Char.toLower) ∈ switchedOn

end Buildfile
