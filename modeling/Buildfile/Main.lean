import Buildfile.CommandLine.Program
import Buildfile.Workspace
/-!
# The command line

The program as it is called from outside. It reads the description from the disk and runs the
commands in a workspace of its own, which holds that description and nothing else, so trying out a
description changes no file.
-/

namespace Buildfile.CommandLine

/-- The variables of the environment that are passed on. -/
def passedVariables : List String := ["PATH", "HOME", "SMMAKE_FILE", "SMMAKE_JOBS", "SMMAKE_DEBUG"]

/-- The directory of the workspace in which the program starts. -/
def startPath : Text := lit "/work"

/-- How deep dependencies may be nested. -/
def maxNesting : Nat := 1000000

/-- The path of the description that a command line is about, from where the program is called. -/
def soughtPath (settings : Settings) (arguments : List Text) : Text :=
  match read arguments with
  | .error _ => settings.description
  | .ok (os, _) =>
    let description := (lastValue? os .description).getD settings.description
    match lastValue? os .directory with
    | none => description
    | some d => if Path.isAbsolute description then description else d ++ '/' :: description

/-- The workspace that a command line finds, given the description if there is one. -/
def workspace (environment : Environment) (path : Text) (content : Option Bytes) : Workspace :=
  let (start, here) := Tree.standard.installDirectory Tree.root startPath
  let file (b : Bytes) : Tree := start.installFile here (Octets.ofText path) (Octets.ofBytes b)
  .ofTree (content.elim start file) here environment

/-- The variables that are passed on, with their values. -/
def currentEnvironment : IO Environment :=
  passedVariables.foldlM (fun e name => return (← IO.getEnv name).elim e fun v => e.set name.toList v.toList) {}

/-- The bytes of a file, if it can be read. -/
def readOnDisk (path : Text) : IO (Option Bytes) :=
  try return some (← IO.FS.readBinFile (String.ofList path)).data.toList
  catch _ => return none

/-- Puts bytes on a stream. -/
def put (stream : IO.FS.Stream) (content : Bytes) : IO Unit := do
  stream.write ⟨content.toArray⟩
  stream.flush

/-- Runs the program and gives its exit status. -/
def runOnDisk (arguments : List Text) : IO UInt32 := do
  let environment ← currentEnvironment
  let settings := Settings.ofEnvironment environment
  let path := soughtPath settings arguments
  let w := workspace environment path (← readOnDisk path)
  match run Workspace.host settings maxNesting arguments w with
  | none =>
    put (← IO.getStderr) (Write.line (program ++ lit ": the dependencies are nested too deep"))
    return 1
  | some r =>
    for w in r.output do
      put (← IO.getStdout) w.toOut
      put (← IO.getStderr) w.toErr
    if let some c := r.crash then put (← IO.getStderr) (Write.line (program ++ lit ": " ++ c.message))
    return r.exit.toUInt32

end Buildfile.CommandLine

/-- The program. -/
def main (arguments : List String) : IO UInt32 :=
  Buildfile.CommandLine.runOnDisk (arguments.map String.toList)
