import Buildfile.Build.Serial
import Buildfile.CommandLine.Choices
import Buildfile.CommandLine.Usage
import Buildfile.Description.File
import Buildfile.Description.Summary
import Buildfile.Runner
/-!
# The program

The program reads its command line, then a description, and builds a target or lists the targets.
What it writes and what it does to its host are its result; nothing else depends on whether debugging
is on.

A description that cannot be read or understood ends the program before any command is run.
-/

namespace Buildfile.CommandLine

variable {τ : Type}

/-- How the program ended. -/
structure Result (τ : Type) where
  exit : Nat
  output : List Write := []
  /-- What stopped the program, if it did not end by itself. -/
  crash : Option Crash := none
  state : τ

/-- What a build writes, and the state of its host. -/
structure Scene (τ : Type) where
  output : List Write := []
  state : τ

/-- The site of a build on a host. -/
def site (h : Host τ) (r : Runner) (b : Rulebook) : Build.Site (Scene τ) where
  resolve s n := Build.resolve b (fun n => h.kind s.state n ≠ .absent) n
  perform n c s :=
    let ran := r.run h c (some n) s.state
    (ran.outcome, { output := s.output ++ ran.output, state := ran.state })
  note n s := { s with output := s.output ++ r.console.debug n.message }

/-- What is suggested after an error. -/
def suggestion : BuildError → Text
  | .unreadable _ _ => lit "Specify a build description explicitly:\n  smmake -f custom.mk build"
  | _ => []

/-- The report of an error. -/
def report (c : Console) (e : BuildError) : List Write := c.error e.title e.message [] (suggestion e)

/-- What is written after a build that failed with an error. -/
def reportBuild (c : Console) (e : BuildError) : List Write :=
  report c e ++ if c.debugging then c.exception e else []

/-- The debug lines about a description that has been read. -/
def announce (c : Console) (d : Description) : List Write :=
  c.debug (lit "Makefile parsed successfully") ++ d.rulebook.summary.flatMap c.debug

namespace Choices

/-- The console that messages go to. -/
def console (o : Choices) : Console := { debugging := o.debugging }

/-- The runner of the commands. -/
def runner (o : Choices) : Runner where
  console := o.console
  quoting := o.quoting

/-- The site of the build that is asked for. -/
def site (o : Choices) (h : Host τ) (b : Rulebook) : Build.Site (Scene τ) := CommandLine.site h o.runner b

/-- What is written before the description is read. -/
def opening (o : Choices) : List Write := o.console.debug (lit "Attempting to parse Makefile: " ++ o.description)

/-- What is written before the targets are listed or one of them is built. -/
def preface (o : Choices) (d : Description) : List Write := o.opening ++ announce o.console d

/-- What a build of the target finds at its start. -/
def scene (o : Choices) (s : τ) : Scene τ where
  output := o.console.debug (lit "Attempting to execute target: " ++ o.target)
  state := s

end Choices

/-- How the program ends when a build has ended like this. -/
def ending (h : Host τ) (c : Console) (o : Outcome) (scene : Scene τ) : Result τ :=
  match o.map h.told with
  | none => { exit := 0, output := scene.output ++ c.debug (lit "Target execution completed"), state := scene.state }
  | some (.error e) => { exit := 1, output := scene.output ++ reportBuild c e, state := scene.state }
  | some (.crash x) => { exit := 1, output := scene.output, crash := some x, state := scene.state }

/-- Builds the target by a rulebook. There is no result if the depth does not suffice. -/
def build (h : Host τ) (depth : Nat) (o : Choices) (b : Rulebook) (s : τ) : Option (Result τ) :=
  (Build.Session.execute (o.site h b) depth o.target { world := o.scene s }).map fun (outcome, session) =>
    ending h o.console outcome session.world

/-- Does what was chosen, in the present directory. -/
def carryOutHere (h : Host τ) (depth : Nat) (o : Choices) (s : τ) : Option (Result τ) :=
  match Description.load (h.read s) o.description with
  | .error (.error e) => some { exit := 1, output := o.opening ++ report o.console e, state := s }
  | .error (.crash c) => some { exit := 1, output := o.opening, crash := some c, state := s }
  | .ok d =>
    if o.listing then
      some { exit := 0, output := o.preface d ++ o.console.names (d.rulebook.rules.map Rule.label), state := s }
    else (build h depth o d.rulebook s).map fun r => { r with output := o.preface d ++ r.output }

/-- Does what was chosen. -/
def carryOut (h : Host τ) (depth : Nat) (o : Choices) (s : τ) : Option (Result τ) :=
  match o.directory.elim (.ok s) (h.enter · s) with
  | .ok s => carryOutHere h depth o s
  | .error c => some { exit := 1, crash := some c, state := s }

/-- What the program does if there is nothing to build. -/
def halt (settings : Settings) (s : τ) : Halt → Result τ
  | .version => { exit := 0, output := [.out versionLine], state := s }
  | .help => { exit := 0, output := (helpLines settings.description).map .out, state := s }
  | .fault f => { exit := 2, output := f.report, state := s }
  | .crash c => { exit := 1, crash := some c, state := s }

/-- The choices that a command line makes on a host. -/
def understand (h : Host τ) (settings : Settings) (arguments : List Text) (s : τ) : Except Halt Choices :=
  match read arguments with
  | .error f => .error (.fault f)
  | .ok (os, operands) => choose settings (h.kind s) os operands

/-- Runs the program. There is no result if the depth does not suffice. -/
def run (h : Host τ) (settings : Settings) (depth : Nat) (arguments : List Text) (s : τ) : Option (Result τ) :=
  match understand h settings arguments s with
  | .error stop => some (halt settings s stop)
  | .ok o => carryOut h depth o s

theorem carryOut_of_entered {h : Host τ} {s s' : τ} {o : Choices}
    (hentered : o.directory.elim (.ok s) (h.enter · s) = .ok s') (depth : Nat) :
    carryOut h depth o s = carryOutHere h depth o s' := by
  unfold carryOut
  rw [hentered]

/-- A run that has understood its command line does what was chosen. -/
theorem run_of_understood {h : Host τ} {settings : Settings} {arguments : List Text} {s : τ} {o : Choices}
    (hunderstood : understand h settings arguments s = .ok o) (depth : Nat) :
    run h settings depth arguments s = carryOut h depth o s := by
  unfold run
  rw [hunderstood]

end Buildfile.CommandLine
