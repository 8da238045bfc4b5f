import Buildfile.CommandLine.Options
import Buildfile.Arguments
import Buildfile.Host
import Buildfile.Text.Numeral
/-!
# Choices

The options of a command line, together with the settings that stand in for those that were not
written, say what the program is to do. Of an option that was written more than once the last value
counts, but all faults of values are looked for in the order in which the options were first written,
and after them in the settings.

A request for the version or the help comes before every fault of a value.
-/

namespace Buildfile.CommandLine

/-- What the program is to do. -/
structure Choices where
  target : Name
  description : Text
  jobs : Option Nat := none
  directory : Option Text := none
  quoting : Quoting := .plain
  listing : Bool := false
  debugging : Bool := false
  deriving DecidableEq, Repr, Inhabited

/-- Why there is nothing to do. -/
inductive Halt where
  | version
  | help
  | fault (f : UsageFault)
  | crash (c : Crash)
  deriving DecidableEq, Repr, Inhabited

/-- The last value written for a topic. -/
def lastValue? (os : List Occurrence) (t : Topic) : Option Text :=
  (os.filterMap fun o => match o with
    | .value t' v => if t' = t then some v else none
    | .turn _ _ => none).getLast?

/-- Whether the last option about a topic turned it on; nothing if there was none. -/
def lastTurn? (os : List Occurrence) (t : Topic) : Option Bool :=
  (os.filterMap fun o => match o with
    | .turn t' on => if t' = t then some on else none
    | .value _ _ => none).getLast?

/-- A number of jobs. -/
def jobsOf (t : Text) : Except Halt Nat :=
  let unfit (problem : Text) : Except Halt Nat := .error (.fault (.unfitValue Topic.jobs.names problem))
  match Text.toInt? t with
  | none => unfit (Text.quoted t ++ lit " is not a valid integer range.")
  | some n => if n < 1 then unfit (Text.ofInt n ++ lit " is not in the range x>=1.") else .ok n.toNat

/-- A directory that exists. Whether it may be read is not looked at. -/
def directoryOf (kind : Text → PathKind) (t : Text) : Except Halt Text :=
  let unfit (problem : Text) : Except Halt Text :=
    .error (.fault (.unfitValue Topic.directory.names (lit "Directory " ++ Text.quoted t ++ problem)))
  if '\x00' ∈ t then .error (.crash .embeddedNul)
  else match kind t with
    | .absent => unfit (lit " does not exist.")
    | .file => unfit (lit " is a file.")
    | .directory | .device => .ok t

/-- The first version or help that was asked for. -/
def halt? (os : List Occurrence) : Option Halt :=
  os.findSome? fun o => match o with
    | .turn .version _ => some .version
    | .turn .help _ => some .help
    | _ => none

/-- The values that can be at fault: those of the options that were written, in the order in which
they were first written, and then those of the settings. -/
def checkedTopics (os : List Occurrence) : List Topic := os.map (·.topic) ++ [.jobs, .directory]

/-- The choices that a command line makes. -/
def choose (settings : Settings) (kind : Text → PathKind) (os : List Occurrence) (operands : List Text) :
    Except Halt Choices :=
  match halt? os with
  | some h => .error h
  | none =>
    let jobs := ((lastValue? os .jobs).orElse fun _ => settings.jobs).mapM jobsOf
    let directory := (lastValue? os .directory).mapM (directoryOf kind)
    let fault? (t : Topic) : Option Halt :=
      match t, jobs, directory with
      | .jobs, .error h, _ => some h
      | .directory, _, .error h => some h
      | _, _, _ => none
    match (checkedTopics os).findSome? fault?, jobs, directory, operands with
    | none, .ok jobs, .ok directory, operands =>
      if 1 < operands.length then .error (.fault (.extraOperands (operands.drop 1)))
      else .ok {
        target := operands.headD settings.target
        description := (lastValue? os .description).getD settings.description
        jobs
        directory
        quoting := if lastTurn? os .quoting = some true then .shell else .plain
        listing := (lastTurn? os .listing).isSome
        debugging := if (lastTurn? os .debug).isSome then !settings.debug else settings.debug }
    | some h, _, _, _ => .error h
    | none, .error h, _, _ | none, _, .error h, _ => .error h

end Buildfile.CommandLine
