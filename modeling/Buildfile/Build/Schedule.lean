import Buildfile.Build.Machine
/-!
# Schedules

A schedule picks the call that takes the next step. The one used here lets the earliest call that
is not held back go on, until every call that is left waits, is held back or has ended. Calls can be
held back at gates, and at a meeting that a number of running commands have to reach together.
-/

namespace Buildfile.Build

variable {σ : Type}

/-- A point at which calls can be held back. -/
inductive Gate where
  /-- Before the name is resolved. -/
  | resolve (n : Name)
  /-- Before a command with this text is run. -/
  | run (text : Text)
  deriving DecidableEq, Repr, Inhabited

/-- The gate that a call stands before. -/
def Call.gate? (c : Call) : Option Gate :=
  match c.phase with
  | .resolving => some (.resolve c.name)
  | .holding (command :: _) => some (.run command.text)
  | _ => none

/-- Commands that end only when `parties` of them are running together. -/
structure Meeting where
  parties : Nat
  commands : List Text
  deriving DecidableEq, Repr, Inhabited

/-- Whether a call is held back by a meeting until enough others have come. -/
def Meeting.attends (meeting : Meeting) (c : Call) : Bool :=
  match c.phase with
  | .running command _ => command.text ∈ meeting.commands
  | _ => false

/-- A machine on its way, and the largest number of commands that were running at once. -/
structure Progress (σ : Type) where
  machine : Machine σ
  peak : Nat := 0

namespace Progress

/-- The progress with the machine at a later state. -/
def reach (p : Progress σ) (m : Machine σ) : Progress σ := { machine := m, peak := max p.peak m.active }

/-- A step of the earliest call that is not held back and can take one. -/
def next? (site : Site σ) (held : Call → Bool) (p : Progress σ) : Option (Progress σ) :=
  (List.range p.machine.calls.length).findSome? fun i =>
    match p.machine.calls[i]? with
    | none => none
    | some c => if held c then none else (p.machine.step site i).map p.reach

/-- Lets calls go on until none can, or until the steps run out. -/
def settle (site : Site σ) (held : Call → Bool) : (steps : Nat) → Progress σ → Progress σ
  | 0, p => p
  | steps + 1, p =>
    match p.next? site held with
    | none => p
    | some p' => settle site held steps p'

/-- The calls that a meeting holds back. -/
def attending (meeting : Meeting) (p : Progress σ) : List CallId :=
  (List.range p.machine.calls.length).filter fun i => p.machine.calls[i]?.any meeting.attends

/-- Lets calls go on, and those at the meeting whenever enough of them have come. -/
def settleMeeting (site : Site σ) (meeting : Meeting) : (steps : Nat) → Progress σ → Progress σ
  | 0, p => p
  | steps + 1, p =>
    let p := p.settle site meeting.attends steps
    let together := (p.attending meeting).take meeting.parties
    if together.length < meeting.parties ∨ together = [] then p
    else settleMeeting site meeting steps <|
      together.foldl (fun p i => ((p.machine.step site i).map p.reach).getD p) p

end Progress

end Buildfile.Build
