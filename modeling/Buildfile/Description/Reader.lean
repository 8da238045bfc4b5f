import Buildfile.Description.Line
import Buildfile.Description.Expansion
import Buildfile.Failure
import Buildfile.Text.Lines
/-!
# Reading a description

A reader takes one line at a time. It keeps the finished rules, the variables set so far, and the
rule whose commands are still being collected; that rule is finished when the next one starts or
the description ends. References in commands and values are replaced as the line is read, so they
see the variables of the lines above only.

`Reader.feed` either takes a line or refuses it, and a refused line leaves no trace because the
reader is not part of the refusal.
-/

namespace Buildfile

/-- A description that has been read. -/
structure Description where
  rulebook : Rulebook := {}
  bindings : Description.Variables := {}
  deriving DecidableEq, Repr, Inhabited

namespace Description

/-- A rule whose commands are still being collected. -/
structure Draft where
  names : List Name
  dependencies : List Name
  line : Int
  commands : List Command := []
  deriving DecidableEq, Repr, Inhabited

/-- The rules of a finished draft, one for each of its names. -/
def Draft.rules (d : Draft) : List Rule :=
  d.names.map fun n => Rule.ofName n d.dependencies d.commands d.line

/-- What has been read so far. -/
structure Reader where
  rulebook : Rulebook := {}
  bindings : Variables := {}
  draft : Option Draft := none
  deriving DecidableEq, Repr, Inhabited

namespace Reader

/-- The draft, if any, turned into rules. -/
def finish (r : Reader) : Reader :=
  match r.draft with
  | none => r
  | some d => { r with rulebook := r.rulebook.addAll d.rules, draft := none }

/-- The effect of a line that has been understood. Only a command can still be refused. -/
def accept (r : Reader) (line : Int) : Line → Except Fault Reader
  | .skip => .ok r
  | .command silent text =>
    match r.draft with
    | none => .error .orphanCommand
    | some d =>
      let command : Command := { text := expand r.bindings text, silent, line := some line }
      .ok { r with draft := some { d with commands := d.commands ++ [command] } }
  | .heading names dependencies => .ok { r.finish with draft := some { names, dependencies, line } }
  | .assignment name value => .ok { r with bindings := r.bindings.set name (expand r.bindings value) }

/-- The reader after one more line. -/
def feed (r : Reader) (line : Int) (text : Text) : Except Fault Reader :=
  match Line.read text with
  | .error f => .error f
  | .ok l => r.accept line l

/-- The reader after further lines, numbered from `line` on, or the number and the fault of the
first one it refuses. -/
def feedAll (r : Reader) (line : Int) : List Text → Except (Int × Fault) Reader
  | [] => .ok r
  | t :: ts =>
    match r.feed line t with
    | .error f => .error (line, f)
    | .ok r' => r'.feedAll (line + 1) ts

theorem feedAll_cons_of_ok {r r' : Reader} {n : Int} {l : Text} (h : r.feed n l = .ok r') (ls : List Text) :
    r.feedAll n (l :: ls) = r'.feedAll (n + 1) ls := by
  rw [feedAll, h]

theorem feedAll_cons_eq_ok_iff {r r' : Reader} {n : Int} {l : Text} {ls : List Text} :
    r.feedAll n (l :: ls) = .ok r' ↔ ∃ next, r.feed n l = .ok next ∧ next.feedAll (n + 1) ls = .ok r' := by
  rw [feedAll]
  cases r.feed n l <;> simp

/-- What has been read, once there are no more lines. -/
def close (r : Reader) : Description := { rulebook := r.finish.rulebook, bindings := r.finish.bindings }

end Reader

/-- How a fault on a line of the description at `source` is reported. -/
def Fault.toError (source : Text) (line : Int) (f : Fault) : BuildError := .malformed source line f.message

/-- Reads a description; `source` is what an error calls it. -/
def parse (source text : Text) : Except BuildError Description :=
  match Reader.feedAll {} 1 text.lines with
  | .error (line, f) => .error (f.toError source line)
  | .ok r => .ok r.close

end Description

end Buildfile
