import Buildfile.Workspace.Shell.Lookup
/-!
# Jobs of a shell

A job is what the shell has started together: a program, a copy of itself, or several of them joined by pipes. The
shell waits for a job, or keeps it in mind until somebody asks for it.

The number of a job is the least one that no other job has; a job that has been waited for gives its number free.
-/

namespace Buildfile.Shell

/-! ## The list of jobs -/

/-- The least number from `n` on for a new job, among at most so many; jobs that have been waited for give theirs
free. -/
def freeJobNumber (jobs : List Job) : (count n : Nat) → Nat
  | 0, n => n
  | k + 1, n =>
    match jobs.find? (·.number = n) with
    | some j => if j.isDone ∧ j.waited then n else freeJobNumber jobs k (n + 1)
    | none => n

/-- Adds a job without processes, and gives its number. -/
def addJob : Act Nat := do
  let s ← get
  let n := freeJobNumber s.jobs s.jobs.length 1
  set { s with jobs := ({ number := n, processes := [] } : Job) :: s.jobs.filter (·.number ≠ n) }
  return n

/-- Changes a job. -/
def changeJob (number : Nat) (f : Job → Job) : Act Unit := modify fun s =>
  { s with jobs := s.jobs.map fun j => if j.number = number then f j else j }

/-- Forgets a job. -/
def forgetJob (number : Nat) : Act Unit := modify fun s => { s with jobs := s.jobs.filter (·.number ≠ number) }

/-- The job with a number. -/
def job? (number : Nat) : Act (Option Job) := see fun s => s.jobs.find? (·.number = number)

/-- Notes that a process has ended. -/
def noteEnd (process : Nat) (status : Int) : Act Unit := modify fun s =>
  let holds (j : Job) : Bool := !j.isDone && j.processes.any (·.1 = process)
  match s.jobs.find? holds with
  | none => s
  | some j => { s with jobs := s.jobs.map fun i => if i.number = j.number then i.after process status else i }

/-! ## Waiting -/

/-- What is said of a program that a signal has ended. -/
def signalWords (status : Int) : Text := if status < 0 then ((Signal.ofNumber? status.natAbs).map Signal.words).getD [] else []

/-- Notes the children that have ended, at most so many. -/
def reapWithin : Nat → Act Unit
  | 0 => return ()
  | n + 1 => do
    let ended ← (Program.ask fun p s =>
      match s.collect p none with
      | some (.ok r, s) => (some r, s)
      | _ => (none, s) : Program (Option (Nat × Int)))
    match ended with
    | some (child, status) =>
      noteEnd child status
      reapWithin n
    | none => return ()

/-- Notes the children that have ended. -/
def reap : Act Unit := reapWithin Program.rounds

/-- Waits until a job has ended, for the end of at most so many children, and gives its status. A signal that has
ended one of its processes is shown. -/
def awaitJobWithin (number : Nat) : Nat → Act Int
  | 0 => return 0
  | n + 1 => do
    match ← job? number with
    | none => return 0
    | some j =>
      if j.isDone then
        forgetJob number
        return shownStatus j.status
      let ended ← (Program.await fun p s => s.collect p none : Program (Except Errno (Nat × Int)))
      match ended with
      | .error _ =>
        forgetJob number
        return 0
      | .ok (child, status) =>
        noteEnd child status
        let words := signalWords status
        if j.processes.any (·.1 = child) ∧ words ≠ [] then tell (words ++ ['\n'])
        awaitJobWithin number n

/-- Waits until a job has ended, and gives its status. -/
def awaitJob (number : Nat) : Act Int := awaitJobWithin number Program.rounds

/-! ## Signals -/

/-- Takes the signals that have come. -/
def takeSignals : Act Unit := do
  let signals ← (Program.ask fun p s =>
    match (s.task p).pending with
    | [] => ([], s)
    | signals => (signals, s.changeTask p fun t => { t with pending := [] }) : Program (List Nat))
  if signals ≠ [] then modify fun s => { s with received := s.received ++ signals }

/-- Makes the task ignore or catch a signal, or leave it to the system, unless the shell was told to ignore it. -/
def provide (signal : Nat) (what : Option Disposition) : Act Unit := do
  if !(← get).ignored.contains signal then
    (Program.change fun p s => s.changeTask p fun t => { t with
      dispositions := what.elim (t.dispositions.erase signal) (t.dispositions.set signal) } : Program Unit)

/-- Whether something is to be carried out when a signal comes or when the shell ends. -/
def hasTraps : Act Bool := see fun s => s.traps.entries.any (·.2 ≠ [])

/-! ## Copies of the shell -/

/-- How a copy of the shell is started. -/
inductive Start where
  /-- It belongs to a job. -/
  | waited (job : Nat)
  /-- It belongs to a job that is not waited for; it has no input unless others of the job came before it. -/
  | background (job : Nat) (first : Bool)
  deriving Inhabited

namespace Start

/-- The job that a copy belongs to. -/
def job : Start → Nat
  | waited j | background j _ => j

end Start

/-- What a copy of the shell does first: it leaves alone what the shell does when signals come, and the jobs. -/
def becomeCopy (start : Start) : Act Unit := do
  for (signal, action) in (← get).traps.entries do
    if action ≠ [] then
      modify fun s => { s with traps := s.traps.erase signal }
      if signal ≠ 0 then provide signal none
  modify fun s => { s with isCopy := true, jobs := [], received := [] }
  if let .background _ first := start then
    provide 2 (some .ignored)
    provide 3 (some .ignored)
    modify fun s => { s with ignored := [2, 3] ++ s.ignored }
    if first then
      (Program.close 0 : Program Unit)
      discard <| (Program.openFile (lit "/dev/null") .read : Program (Except Errno Nat))

/-- Starts a copy of the shell that does something and comes to a status. -/
def startCopy (start : Start) (copy : Shell → Program Int) : Act Unit := do
  let s ← get
  let p ← (Program.fork (copy s) : Program Nat)
  changeJob start.job fun j => { j with processes := j.processes ++ [(p, none)] }
  if let .background _ _ := start then modify fun s => { s with background := some p }

/-! ## Showing jobs -/

/-- How jobs are shown. -/
inductive JobStyle where
  | brief
  | withProcesses
  /-- Only the number of the first process. -/
  | processOnly
  deriving DecidableEq, Inhabited

/-- The column at which the command of a job would be shown. -/
def commandColumn : Nat := 33

/-- How a job is doing. -/
def Job.words (j : Job) : Text :=
  if !j.isDone then lit "Running"
  else if j.status < 0 then signalName j.status
  else if j.status = 0 then lit "Done"
  else lit "Done(" ++ Text.ofInt j.status ++ [')']
where
  /-- The words for a signal, also for one that is not shown otherwise. -/
  signalName (status : Int) : Text :=
    if status = -2 then lit "Interrupt"
    else if status = -13 then lit "Broken pipe"
    else signalWords status

/-- The lines of a job; `mark` tells its place among the latest ones. -/
def Job.lines (style : JobStyle) (mark : Char) (j : Job) : Text :=
  let first := (j.processes.head?.map (·.1)).getD 0
  if style = .processOnly then Text.ofNat first ++ ['\n']
  else
    let number := '[' :: Text.ofNat j.number ++ [']', ' ', mark, ' ']
    let filled (t : Text) : Text := t ++ List.replicate (max 1 (commandColumn - t.length)) ' '
    if style = .brief then
      filled (number ++ j.words) ++ (j.processes.drop 1).flatMap (fun _ => lit " | ") ++ ['\n']
    else
      let other (p : Nat × Option Int) : Text :=
        let gap := List.replicate number.length ' '
        lit " |\n" ++ gap ++ Text.ofNat p.1 ++ [' '] ++
          List.replicate (max 1 (commandColumn - (gap.length + (Text.ofNat p.1).length + 1))) ' '
      filled (number ++ Text.ofNat first ++ ' ' :: j.words) ++ (j.processes.drop 1).flatMap other ++ ['\n']

/-- Shows a job, and forgets it if it has ended. -/
def sayJob (style : JobStyle) (j : Job) : Act Unit := do
  let jobs := (← get).jobs
  let mark := if jobs.head?.any (·.number = j.number) then '+'
    else if jobs[1]?.any (·.number = j.number) then '-' else ' '
  say (j.lines style mark)
  if j.isDone then forgetJob j.number

/-- The job that a text stands for. -/
def jobOf (t : Text) (controlled : Bool := false) : Act Job := do
  let jobs := (← get).jobs
  let present (found : Option Job) (reason : Text) : Act Job :=
    match found with
    | none => abort reason
    | some j => if controlled then abort (lit "job " ++ t ++ lit " not created under job control") else return j
  let missing := lit "No such job: " ++ t
  match t with
  | ['%'] | ['%', '+'] | ['%', '%'] => present jobs.head? (lit "No current job")
  | ['%', '-'] => present jobs[1]? (lit "No previous job")
  | ['%', '?'] => present (if jobs.length = 1 then jobs.head? else none) missing
  | '%' :: rest => present ((digits? rest).bind fun n => jobs.find? (·.number = n)) missing
  | _ => abort missing

end Buildfile.Shell
