import Buildfile.Workspace.Tree
/-!
# Canonical paths

The canonical path of a file starts at the root and has no links in it. A path that leads to nothing may have
one too, if the end of it, or all of it, may be missing.
-/

namespace Buildfile.Canonical

/-- What may be missing of a path. -/
inductive Leniency where
  | nothing
  /-- The last component. -/
  | last
  | everything
  deriving DecidableEq, Inhabited

/-- How far a walk has come: the names on the way, and the directory there unless it is missing. -/
structure Progress where
  names : List Text := []
  place : Option Place := some Tree.root
  deriving Inhabited

/-- The progress at a directory. -/
def at? (t : Tree) (p : Place) : Option Progress :=
  (t.namesTo? (t.nodes.size + 1) p).map fun names => { names, place := some p }

/-- One directory upwards. -/
def Progress.up (t : Tree) (x : Progress) : Progress :=
  { names := x.names.dropLast, place := x.place.map t.parent }

/-- Walks components with so many links left to follow, and with a bound on their number. -/
def walk (t : Tree) (lenient : Leniency) (links slash : Bool) : (left steps : Nat) → Progress → List Text → Except Errno Progress
  | _, 0, _, _ => .error .tooManyLevels
  | _, _ + 1, x, [] => .ok x
  | left, k + 1, x, c :: cs =>
    if c = ['.'] then walk t lenient links slash left k x cs
    else if c = ['.', '.'] then walk t lenient links slash left k (x.up t) cs
    else
      let next : Progress := { names := x.names ++ [c], place := x.place.bind (t.child? · c) }
      match x.place, next.place with
      | some _, some q =>
        match (t.at? q).map Node.content with
        | some (.directory _ _) => walk t lenient links slash left k next cs
        | some (.link target) =>
          if !links then walk t lenient links slash left k next cs
          else match left with
            | 0 => if lenient = .everything then walk t lenient links slash 0 k next cs else .error .tooManyLevels
            | left + 1 =>
              let start : Progress := if Path.isAbsolute target then {} else x
              walk t lenient links slash left k start (Path.names target ++ cs)
        | _ =>
          if (cs ≠ [] ∨ slash) ∧ lenient ≠ .everything then .error .notDirectory
          else walk t lenient links slash left k next cs
      | _, _ =>
        if lenient = .everything ∨ (lenient = .last ∧ cs = []) then walk t lenient links slash left k next cs
        else .error .noEntry

/-- The most components that are walked. -/
def maxSteps : Nat := 100000

/-- Names as a path from the root. -/
def ofNames (names : List Text) : Text := '/' :: ['/'].intercalate names

/-- The names on the canonical path of a path, from a directory; links are followed if `links`. -/
def names? (t : Tree) (here : Place) (lenient : Leniency) (path : Text) (links : Bool := true) : Except Errno (List Text) :=
  if path = [] then .error .noEntry
  else
    let start := if Path.isAbsolute path then some {} else at? t here
    match start with
    | none => .error .noEntry
    | some x =>
      (walk t lenient links (path.getLast? = some '/') Tree.maxLinks maxSteps x (Path.names path)).map (·.names)

/-- The canonical path of a path, from a directory. -/
def path? (t : Tree) (here : Place) (lenient : Leniency) (path : Text) (links : Bool := true) : Except Errno Text :=
  (names? t here lenient path links).map ofNames

/-- Names from one directory to another file. -/
def relative (base names : List Text) : Text :=
  let shared := ((base.zip names).takeWhile fun p => p.1 = p.2).length
  match List.replicate (base.length - shared) ['.', '.'] ++ names.drop shared with
  | [] => ['.']
  | cs => ['/'].intercalate cs

end Buildfile.Canonical
