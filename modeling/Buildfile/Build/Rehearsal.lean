import Buildfile.Build.Schedule
import Buildfile.Build.Serial
import Buildfile.Description.Reader
import Buildfile.Workspace.Tree
/-!
# Rehearsals

A rehearsal is a build whose commands are not run: a script says which of them fail and how, and all
others succeed. Rules can be added and files made and removed between two requests. A request is
carried out either in order or side by side, on the same kind of session, so the two can be compared.
-/

namespace Buildfile.Build

/-- How a command of a script fails. -/
inductive Mishap where
  /-- It ends with this status. -/
  | status (n : Int)
  /-- It is not started, for this reason. -/
  | reason (t : Text)
  /-- It stops the work on its target altogether. -/
  | crash
  deriving DecidableEq, Repr, Inhabited

/-- The commands that fail, by their texts. -/
abbrev Script := Table Text Mishap

/-- The outcome of a command under a script. -/
def Script.outcome (s : Script) (n : Name) (c : Command) : Outcome :=
  match s.get? c.text with
  | none => none
  | some (.status k) => some (.error (.commandFailed c.text (some n) (some k) none))
  | some (.reason r) => some (.error (.commandFailed c.text (some n) none (some r)))
  | some .crash => some (.crash (.raised (lit "crash: " ++ c.text)))

/-- The surroundings of a rehearsal, and the notes taken so far. -/
structure Stage where
  rulebook : Rulebook := {}
  tree : Tree := {}
  here : Place := Tree.root
  notes : List Note := []
  deriving Inhabited

namespace Stage

/-- The site of a rehearsal. -/
def site (script : Script) : Site Stage where
  resolve s n := Build.resolve s.rulebook (fun n => s.tree.contains s.here (Octets.ofText n)) n
  perform n c s := (script.outcome n c, s)
  note n s := { s with notes := s.notes ++ [n] }

/-- The stage with further rules. -/
def define (s : Stage) (rules : List Rule) : Stage := { s with rulebook := s.rulebook.addAll rules }

/-- The stage with a file made, unless there is one. -/
def touch (s : Stage) (path : Text) : Stage :=
  let path := Octets.ofText path
  if s.tree.contains s.here path then s else { s with tree := s.tree.installFile s.here path [] }

/-- The stage with a file removed. -/
def remove (s : Stage) (path : Text) : Stage := { s with tree := s.tree.remove s.here (Octets.ofText path) }

end Stage

variable {σ : Type}

/-- Carries out a request side by side, with at most `jobs` targets running commands if that is
bounded: the outcome, the session afterwards, and the most commands that were running at once. There
is no outcome if the steps do not suffice. -/
def Session.executeTogether (site : Site σ) (jobs : Option Nat) (meeting : Meeting) (steps : Nat) (n : Name)
    (s : Session σ) : Option (Outcome × Session σ) × Nat :=
  let start : Machine σ := { ledger := s.ledger, slots := jobs, ran := s.ran, world := s.world }
  let p := Progress.settleMeeting site meeting steps { machine := start.start n }
  let m := p.machine
  ((m.result? 0).map fun o => (o, { ledger := m.ledger, ran := m.ran, world := m.world }), p.peak)

end Buildfile.Build
