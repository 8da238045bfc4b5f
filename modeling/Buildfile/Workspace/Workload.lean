import Buildfile.Workspace.Launch
/-!
# Workloads

A workload is the system together with the processes that are at work in it. The processes take turns in a
round; each goes on for a while, or until it has to wait. Time passes as they work, and if all of them wait
it goes on to the next moment at which one wants to be woken.
-/

namespace Buildfile

/-- The system and what its tasks still do. -/
structure Workload where
  system : System := {}
  queue : List (Nat × Process) := []
  deriving Inhabited

namespace Workload

/-- How a turn of a process ended. -/
inductive Turn where
  | ended
  /-- The process has to wait. -/
  | blocked (q : Process)
  /-- Others go on first. -/
  | paused (q : Process)
  deriving Inhabited

/-- How long a request takes, in nanoseconds. -/
def stepTime : Nat := 10000

/-- How long it takes to become a program. -/
def executionTime : Nat := 1000000

/-- The system after some time. -/
def passed (time : Nat) (s : System) : System := { s with clock := s.clock + time }

/-- A turn of at most so many requests, and the processes that were started in it. -/
def turn (programs : Launch.Programs) (p : Nat) : Nat → Process → System → List (Nat × Process) →
    Turn × System × List (Nat × Process)
  | 0, q, s, started => (.paused q, s, started)
  | k + 1, q, s, started =>
    match s.tasks.get? p with
    | none => (.ended, s, started)
    | some t =>
      if t.ended.isSome then (.ended, s, started)
      else if t.stopped then (.blocked q, s, started)
      else match q with
        | .finish status => (.ended, s.finish p (status % 256), started)
        | .step f =>
          let (q, s) := f p (passed stepTime s)
          turn programs p k q s started
        | .await f =>
          match f p s with
          | none => (.blocked q, s, started)
          | some (q, s) => turn programs p k q (passed stepTime s) started
        | .fork child next =>
          let (s, c) := s.fork p
          turn programs p k (next c) (passed stepTime s) (started ++ [(c, child)])
        | .execute path arguments environment refused =>
          match Launch.execute programs (passed executionTime s) p path arguments environment with
          | .ok (s, q) => turn programs p k q s started
          | .error e => turn programs p k (refused e) (passed stepTime s) started

/-- The most requests in a turn. -/
def turnLength : Nat := 1000

/-- The processes that go on after a turn. -/
def remaining (p : Nat) : Turn → List (Nat × Process)
  | .ended => []
  | .blocked q | .paused q => [(p, q)]

/-- A turn for every process of a list, after those that have had theirs. -/
def turns (programs : Launch.Programs) : List (Nat × Process) → Workload → Workload
  | [], w => w
  | (p, q) :: rest, w =>
    let (t, s, started) := turn programs p turnLength q w.system []
    turns programs rest { system := s, queue := w.queue ++ remaining p t ++ started }

/-- A turn for every process. -/
def round (programs : Launch.Programs) (w : Workload) : Workload := turns programs w.queue { system := w.system }

/-- The next moment at which a task wants to be woken. -/
def nextAlarm? (w : Workload) : Option Nat :=
  (w.queue.filterMap fun e => ((w.system.tasks.get? e.1).bind fun t => if t.stopped then none else t.alarm)).min?

/-- Goes on for at most so many rounds as long as there is something to do; if all processes wait, time goes
on to the next alarm if `patient`. -/
def run (programs : Launch.Programs) (patient : Bool) (enough : System → Bool) : Nat → Workload → Workload
  | 0, w => w
  | n + 1, w =>
    if enough w.system ∨ w.queue = [] then w
    else
      let after := round programs w
      if after.system.clock ≠ w.system.clock ∨ after.queue.length ≠ w.queue.length then
        run programs patient enough n after
      else if !patient then after
      else match after.nextAlarm? with
        | none => after
        | some time => run programs patient enough n { after with system := { after.system with clock := max time after.system.clock } }

/-- The most rounds of a workload that is waited for. -/
def maxRounds : Nat := 20000

/-- The most rounds after what was waited for has ended. -/
def lateRounds : Nat := 100

/-- Starts a program in a directory, waits until it ends, and gives its status with what has been written;
or the reason why it cannot be started. -/
def start (programs : Launch.Programs) (here : Place) (arguments : List Text) (environment : Environment)
    (w : Workload) : Except Errno (Int × List (Bool × Text) × Workload) :=
  let (s, input) := w.system.addOpening { target := .device .null }
  let (s, out) := s.addOpening { target := .out }
  let (s, err) := s.addOpening { target := .err }
  let descriptor (n : Nat) : Descriptor := { opening := n }
  let (s, p) := s.addTask
    { here, environment, descriptors := ⟨[(0, descriptor input), (1, descriptor out), (2, descriptor err)]⟩ }
  match Launch.search programs s p arguments environment with
  | .error e => .error e
  | .ok (s, q) =>
    let enough (s : System) : Bool := ((s.tasks.get? p).all fun t => t.ended.isSome)
    let w := run programs true enough maxRounds { system := { s with output := [] }, queue := w.queue ++ [(p, q)] }
    let w := run programs false (fun _ => false) lateRounds w
    let status := (w.system.task p).ended.getD (-9)
    .ok (status, w.system.output.reverse,
      { system := { w.system with tasks := w.system.tasks.erase p, output := [] }, queue := w.queue.filter (·.1 ≠ p) })

end Workload

end Buildfile
