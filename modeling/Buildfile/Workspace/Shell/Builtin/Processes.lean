import Buildfile.Workspace.Shell.Builtin.Output
import Buildfile.Workspace.Shell.Job
/-!
# Builtins about processes

Jobs are shown and waited for, signals are sent to processes, and `trap` sets what is carried out when a signal
comes.
-/

namespace Buildfile.Shell

/-! ## Jobs -/

/-- Shows jobs. -/
def listJobs : Builtin := fun args => do
  let (given, names) ← optionsOf ['l', 'p'] args
  let style : JobStyle := match given.getLast? with
    | some ('l', _) => .withProcesses
    | some _ => .processOnly
    | none => .brief
  if names = [] then
    reap
    let s ← get
    let mark (i : Nat) : Char := if i = 0 then '+' else if i = 1 then '-' else ' '
    for (j, i) in s.jobs.zipIdx do
      say (j.lines style (mark i))
    for j in s.jobs do
      if j.isDone then forgetJob j.number
  for n in names do
    sayJob style (← jobOf n)
  return 0

/-- Continues a job, which only a shell that controls jobs can. -/
def resume : Builtin := fun args => do
  let (_, names) ← optionsOf [] args
  match names with
  | [] =>
    if (← get).jobs.isEmpty then abort (lit "No current job")
    abort (lit "job (null) not created under job control")
  | n :: _ =>
    discard <| jobOf n true
    return 0

/-- What comes of waiting. -/
inductive Awaited where
  | ended
  /-- A signal has come first. -/
  | interrupted
  /-- There is nothing to wait for. -/
  | nothing
  deriving DecidableEq, Inhabited

/-- Waits for the end of a child, or for a signal; a signal that has ended a process of a job is shown. -/
def awaitEnd (ofJob : Option Job) : Act Awaited := do
  match ← (Program.wait none : Program (Except Errno (Nat × Int))) with
  | .ok (child, status) =>
    noteEnd child status
    let words := signalWords status
    if ofJob.any (fun j => j.processes.any (·.1 = child)) ∧ words ≠ [] then tell (words ++ ['\n'])
    return .ended
  | .error .interrupted =>
    takeSignals
    return .interrupted
  | .error _ => return .nothing

/-- The status that a signal which interrupts `wait` leads to. -/
def interruptedStatus : Act Int := see fun s => 128 + ((s.received.getLast?).getD 0 : Nat)

/-- Waits for all jobs, for the end of at most so many children. -/
def waitForAll : Nat → Act Int
  | 0 => return 0
  | n + 1 => do
    if (← get).jobs.all Job.isDone then
      modify fun s => { s with jobs := s.jobs.map fun j => { j with waited := true } }
      return 0
    match ← awaitEnd none with
    | .ended => waitForAll n
    | .interrupted => interruptedStatus
    | .nothing => return 0

/-- Waits for a job, for the end of at most so many children; nothing comes if a signal comes first. -/
def waitForJob (number : Nat) : Nat → Act (Option Int)
  | 0 => return some 0
  | n + 1 => do
    match ← job? number with
    | none => return some 127
    | some j =>
      if j.isDone then
        changeJob number fun j => { j with waited := true }
        return some (shownStatus j.status)
      match ← awaitEnd (some j) with
      | .ended => waitForJob number n
      | .interrupted => return none
      | .nothing => return some 127

/-- Waits for jobs, one after another; the status is the one of the last of them. -/
def waitForEach : (status : Int) → List Text → Act Int
  | status, [] => return status
  | status, a :: rest => do
    let job ← if a.head? = some '%' then do pure (some (← jobOf a))
      else do
        let p ← numberOf a
        pure ((← get).jobs.find? (·.last = p))
    match job with
    | none => waitForEach status rest
    | some j =>
      match ← waitForJob j.number Program.rounds with
      | some status => waitForEach status rest
      | none => interruptedStatus

/-- Waits for jobs, or for all if none is given. -/
def wait : Builtin := fun args => do
  let (_, names) ← optionsOf [] args
  if names = [] then waitForAll Program.rounds else waitForEach 127 names

/-- Shows how much time has been used up. -/
def times : Builtin := fun _ => do
  for _ in [0, 1] do
    sayLine (lit "0m0.000000s 0m0.000000s")
  return 0

/-! ## Signals -/

/-- The name of the end of the shell among the names of signals. -/
def endName : Text := lit "EXIT"

/-- The number of a signal given by its number. -/
def signalNumber? (t : Text) : Option Nat := (digits? t).filter (· ≤ 64)

/-- The number of a signal given by name or number; zero stands for the end of the shell. -/
def signal? (t : Text) : Option Nat :=
  let name := t.map Char.toUpper
  ((signalNumber? t).orElse fun _ => (Signal.ofName? name).map Signal.number).orElse fun _ =>
    if name = endName then some 0 else none

/-- The name of a signal; zero stands for the end of the shell. -/
def signalName (n : Nat) : Text := ((Signal.ofNumber? n).map Signal.name).getD endName

/-- How `kill` is called. -/
def killUsage : Text :=
  lit "Usage: kill [-s sigspec | -signum | -sigspec] [pid | job]... or\nkill -l [exitstatus]"

/-- Shows the names of all signals, or of the one that an exit status stands for. -/
def listSignals (args : List Text) : Act Int := do
  match args with
  | [] =>
    sayLine ['0']
    for s in Signal.all do
      sayLine s.name
  | a :: _ =>
    let n ← numberOf a
    match Signal.ofNumber? (if n > 128 then n - 128 else n) with
    | some s => sayLine s.name
    | none => abort (lit "invalid signal number or exit status: " ++ a)
  return 0

/-- Sends a signal to processes, one after another; children that have ended are no processes any more if it is only
asked whether there are any. -/
def sendSignals (signal : Nat) : (status : Int) → List Text → Act Int
  | status, [] => return status
  | status, a :: rest => do
    if signal = 0 then reap
    let isGroup := a.head? = some '-' ∨ a.head? = some '%'
    let target ← if a.head? = some '%' then (do pure (← jobOf a).last)
      else numberOf (if a.head? = some '-' then a.drop 1 else a)
    let sent ← if isGroup then pure (.error .noProcess)
      else (Program.send target signal : Program (Except Errno Unit))
    match sent with
    | .ok () => sendSignals signal status rest
    | .error e =>
      warn (e.message ++ ['\n'])
      sendSignals signal 1 rest

/-- The signal that an option of `kill` names. -/
def optionSignal (t : Text) : Act Nat :=
  match (signal? t).filter (fun n => n ≠ 0 ∨ (digits? t).isSome) with
  | some n => return n
  | none => abort (lit "invalid signal number or name: " ++ t)

/-- Sends a signal or shows the names of signals. -/
def kill : Builtin := fun args => do
  if args = [] then abort killUsage
  let first : Option Nat := match args with
    | ('-' :: name) :: _ => (signal? name).filter fun n => n ≠ 0 ∨ (digits? name).isSome
    | _ => none
  match first with
  | some n => if args.drop 1 = [] then abort killUsage else sendSignals n 0 (args.drop 1)
  | none =>
    let (given, rest) ← if (args.headD []).head? = some '-' then optionsOf (lit "ls:") args else pure ([], args)
    let mut signal := none
    for (c, v) in given do
      if c = 's' then signal := some (← optionSignal v)
    let lists := given.any (·.1 = 'l')
    if (lists ∧ signal.isSome ∧ rest ≠ []) then abort killUsage
    if lists then listSignals rest
    else if rest = [] then abort killUsage
    else sendSignals (signal.getD 15) 0 rest

/-- Sets what is carried out when some signals come, up to the first name that stands for none. -/
def setTraps (action : Option Text) : List Text → Act Int
  | [] => return 0
  | name :: names => do
    match signal? name with
    | none =>
      tell (lit "trap: " ++ name ++ lit ": bad trap\n")
      return 1
    | some n =>
      modify fun s => { s with traps := action.elim (s.traps.erase n) (s.traps.set n) }
      if n ≠ 0 then provide n (action.map fun a => if a = [] then .ignored else .caught)
      setTraps action names

/-- Sets what is carried out when signals come; a dash takes it back. Without arguments, shows what is set. -/
def trap : Builtin := fun args => do
  let (_, args) ← optionsOf [] args
  match args with
  | [] =>
    let traps := (← get).traps
    for n in List.range 65 do
      if let some a := traps.get? n then sayLine (lit "trap -- " ++ singleQuoted a ++ ' ' :: signalName n)
    return 0
  | action :: names =>
    if names = [] ∨ (signalNumber? action).isSome then setTraps none args
    else setTraps (if action = ['-'] then none else some action) names

end Buildfile.Shell
