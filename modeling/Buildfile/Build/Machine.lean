import Buildfile.Build.Site
/-!
# Building names side by side

Every request for a name is a call, and every call goes through phases, one atomic step at a time.
Any call that can take a step may be the next to take it, so a run of the machine is any
interleaving of the calls. The owner of a name resolves it, records what it waits for, starts a
call for each dependency, waits for all of them, takes a job slot, runs its commands, gives the
slot back, and publishes its outcome; the other calls for the name take that outcome over.

A job slot is held from the first command of a target to its last or failing one, and never while a
call waits for anything else. A machine without a bound on its jobs has no slots to run out of.
-/

namespace Buildfile.Build

variable {σ : Type}

/-- The place of a call among the calls of a machine. -/
abbrev CallId := Nat

/-- How far a call has come. -/
inductive Phase where
  /-- It is about to be admitted. -/
  | requested
  /-- It waits for the outcome of another call. -/
  | joined
  /-- It owns its name and is about to resolve it. -/
  | resolving
  /-- It is about to record the dependencies of its plan. -/
  | planned (plan : Plan)
  /-- It is about to start a call for each dependency. -/
  | recorded (plan : Plan)
  /-- It waits for these calls to return. -/
  | waiting (plan : Plan) (calls : List CallId)
  /-- Its dependencies have all returned, and it is about to forget that it waited for them. -/
  | gathered (plan : Plan) (outcome : Outcome)
  /-- It may run these commands once it has a job slot. -/
  | queued (commands : List Command)
  /-- It holds a job slot and is about to run the first of these commands. -/
  | holding (commands : List Command)
  /-- It holds a job slot, and `command` is running. -/
  | running (command : Command) (rest : List Command)
  /-- It is about to give its job slot back. -/
  | leaving (outcome : Outcome)
  /-- It is about to publish its outcome. -/
  | closing (outcome : Outcome)
  /-- It has ended. -/
  | returned (outcome : Outcome)
  deriving DecidableEq, Repr, Inhabited

namespace Phase

/-- Whether a call in this phase holds a job slot. -/
def holdsSlot : Phase → Bool
  | holding _ | running _ _ | leaving _ => true
  | _ => false

/-- Whether a command of the call is running. -/
def isRunning : Phase → Bool
  | running _ _ => true
  | _ => false

/-- The outcome of a call that has ended. -/
def result? : Phase → Option Outcome
  | returned o => some o
  | _ => none

end Phase

/-- A request for a name, made while building the last of `ancestors`. -/
structure Call where
  name : Name
  ancestors : List Name
  phase : Phase
  deriving DecidableEq, Repr, Inhabited

/-- The state of a build whose calls go on side by side. -/
structure Machine (σ : Type) where
  ledger : Ledger := {}
  calls : List Call := []
  /-- The number of free job slots, if jobs are bounded. -/
  slots : Option Nat := none
  /-- The commands that were started, in order, with their targets. -/
  ran : List (Name × Command) := []
  world : σ
  deriving Repr

/-- The number of job slots that a bound asks for, which must let some target run. -/
def slotsFor (jobs : Int) : Except Crash Nat :=
  if jobs < 1 then .error (.invalid (lit "jobs must be >= 1, got " ++ Text.ofInt jobs)) else .ok jobs.toNat

namespace Machine

/-- The machine with a call in a new phase. -/
def enter (m : Machine σ) (i : CallId) (p : Phase) : Machine σ :=
  { m with calls := m.calls.modify i fun c => { c with phase := p } }

/-- The machine after a note. -/
def note (site : Site σ) (m : Machine σ) (n : Note) : Machine σ := { m with world := site.note n m.world }

/-- The machine with its ledger changed. -/
def update (m : Machine σ) (f : Ledger → Ledger) : Machine σ := { m with ledger := f m.ledger }

/-- The machine with one more call. -/
def request (m : Machine σ) (n : Name) (ancestors : List Name) : Machine σ :=
  { m with calls := m.calls ++ [{ name := n, ancestors, phase := .requested }] }

/-- The machine with a request from outside. -/
def start (m : Machine σ) (n : Name) : Machine σ := m.request n []

/-- The outcome of a call that has ended. -/
def result? (m : Machine σ) (i : CallId) : Option Outcome := m.calls[i]?.bind fun c => c.phase.result?

/-- The machine with one job slot less, if there is one to take. -/
def takeSlot (m : Machine σ) : Option (Machine σ) :=
  match m.slots with
  | none => some m
  | some 0 => none
  | some (k + 1) => some { m with slots := some k }

/-- The machine with one job slot more. -/
def giveSlot (m : Machine σ) : Machine σ := { m with slots := m.slots.map (· + 1) }

/-- One atomic step of call `i`, a call for `n` that is in the given phase; nothing if it has to
wait or has ended. -/
def advance (site : Site σ) (m : Machine σ) (i : CallId) (n : Name) (ancestors : List Name) :
    Phase → Option (Machine σ)
  | .requested =>
    match m.ledger.admission n ancestors with
    | .own => some ((m.update (·.enroll n)).enter i .resolving)
    | .join => some ((m.note site (.joining n)).enter i .joined)
    | .refuse e => some (m.enter i (.returned (some (.error e))))
  | .joined => (m.ledger.outcome? n).map fun o => m.enter i (.returned o)
  | .resolving =>
    let resolution := site.resolve m.world n
    let m := (resolution.note? n).elim m (m.note site)
    match resolution with
    | .planned p _ => some (m.enter i (if p.dependencies = [] then .queued p.commands else .planned p))
    | .present => some (m.enter i (.closing none))
    | .missing => some (m.enter i (.closing (some (.error (.unknownTarget n)))))
  | .planned p => some ((m.update (·.await n p.dependencies)).enter i (.recorded p))
  | .recorded p =>
    let calls := List.range' m.calls.length p.dependencies.length
    some ((p.dependencies.foldl (fun m d => m.request d (ancestors ++ [n])) m).enter i (.waiting p calls))
  | .waiting p calls =>
    (calls.mapM m.result?).map fun os => m.enter i (.gathered p (blame n (p.dependencies.zip os)))
  | .gathered p o =>
    some ((m.update (·.release n)).enter i (match o with
      | none => .queued p.commands
      | some f => .closing (some f)))
  | .queued [] => some ((m.note site (.finished n)).enter i (.closing none))
  | .queued (c :: cs) => m.takeSlot.map (·.enter i (.holding (c :: cs)))
  | .holding [] => some (m.enter i (.leaving none))
  | .holding (c :: cs) => some ({ m with ran := m.ran ++ [(n, c)] }.enter i (.running c cs))
  | .running c cs =>
    match site.perform n c m.world with
    | (none, w) => some ({ m with world := w }.enter i (.holding cs))
    | (some f, w) => some ({ m with world := w }.enter i (.leaving (some f)))
  | .leaving o =>
    let m := if o = none then m.note site (.finished n) else m
    some (m.giveSlot.enter i (.closing o))
  | .closing o => some ((m.update (·.settle n o)).enter i (.returned o))
  | .returned _ => none

/-- One atomic step of call `i`. -/
def step (site : Site σ) (m : Machine σ) (i : CallId) : Option (Machine σ) :=
  m.calls[i]?.bind fun c => m.advance site i c.name c.ancestors c.phase

/-- The number of commands that are running. -/
def active (m : Machine σ) : Nat := m.calls.countP (·.phase.isRunning)

end Machine

end Buildfile.Build
