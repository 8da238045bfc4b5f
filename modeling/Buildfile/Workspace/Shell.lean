import Buildfile.Workspace.Shell.Evaluation
/-!
# The shell

The shell carries out a script: a text that is given after the option `-c`, a file, or its standard input. The
parameters of the script follow.
-/

namespace Buildfile.Shell

/-- What is carried out. -/
inductive Order where
  | text (t : Text)
  | file (path : Text) (parameters : List Text)
  | input
  deriving Inhabited

/-- The shell as it is started: with the variables of its environment, and with the signals that it ignores. -/
def initial (t : Task) (number : Nat) : Shell :=
  let parent : Variable := { value := some (Text.ofNat t.parent) }
  { name := t.arguments.headD []
    reached := 0
    vars := (startVariables t.environment).set (lit "PPID") parent
    number
    ignored := t.dispositions.entries.filterMap fun e => if e.2 = .ignored then some e.1 else none }

/-- Notes where the shell works: under the path that the environment names if that leads there. -/
def noteStart : Act Unit := do
  let named := (← get).lookUp? (lit "PWD")
  let isHere (t : Tree) (here : Place) (p : Text) : Bool := Path.isAbsolute p && (t.lookup here p).toOption = some here
  let known ← (Program.inTree fun t here => named.filter (isHere t here) : Program (Option Text))
  noteHere known

/-- Reads the options and the other arguments of the shell, and gives what is carried out. -/
def readArguments (args : List Text) : Act Order := do
  let (rest, script, _) ← turnOptions true args.length args
  if rest = [] then
    if script then abort (lit "-c requires an argument")
    turn true 's'
  if (← get).options.contains 'i' then turn true 'm'
  leaveJobControl
  let named (args : List Text) : Act Unit :=
    match args with
    | name :: parameters => modify fun s => { s with name, parameters }
    | [] => return ()
  let standard ← has 's'
  match rest with
  | t :: rest =>
    if script then
      named rest
      return .text t
    else if standard then
      modify fun s => { s with parameters := t :: rest }
      return .input
    else return .file t rest
  | [] => return .input

/-- Carries out the script of the shell from its first line. -/
def carryOut (go : Runner) (args : List Text) : Act Unit := do
  noteStart
  let lines (t : Text) : Act Unit := do
    modify fun s => { s with reached := 1 }
    discard <| carryOutLines go {} true Program.rounds { layers := [{ text := t }] } 0
  match ← readArguments args with
  | .text t =>
    modify fun s => { s with reached := 1 }
    discard <| carryOutText go {} t
  | .file path parameters =>
    let t ← readFile path
    modify fun s => { s with name := path, parameters }
    lines t
  | .input =>
    let t ← readAllWithin 0 Program.rounds []
    lines (t.filter (· != '\x00'))

/-- The shell as a program. -/
def program : Program Int := do
  let t ← Program.task
  let number ← Program.look fun p _ => p
  let go := run maxDepth
  asProgram (endShell go (carryOut go (t.arguments.drop 1))) (initial t number)

/-- The shell as a process. -/
def process : Process := program.process

end Buildfile.Shell
