import Buildfile.Workspace.Tree
/-!
# Tests of files

What can be asked of a path: whether there is something, what it is, and which of two files was changed later.
-/

namespace Buildfile.FileTest

/-- Whether a node is what a letter asks for. -/
def ofNode (letter : Char) (n : Node) : Bool :=
  match letter with
  | 'd' => n.isDirectory
  | 'f' =>
    match n.content with
    | .file _ | .program _ => true
    | _ => false
  | 's' =>
    match n.content with
    | .file b => !b.isEmpty
    | .device _ => false
    | _ => true
  | 'x' => n.isDirectory || n.mayExecute
  | 'c' =>
    match n.content with
    | .device _ => true
    | _ => false
  | 'u' => n.mode &&& 0o4000 != 0
  | 'g' => n.mode &&& 0o2000 != 0
  | 'k' => n.mode &&& 0o1000 != 0
  | 'b' | 'p' | 'S' | 'N' => false
  | _ => true

/-- The letters of the questions about one path. -/
def letters : List Char :=
  ['e', 'r', 'w', 'x', 'f', 'd', 's', 'S', 'c', 'b', 'p', 'L', 'h', 'u', 'g', 'k', 'O', 'G', 'N']

/-- The answer to the question of a letter about a path. -/
def holds (t : Tree) (here : Place) (letter : Char) (path : Text) : Bool :=
  if letter = 'L' ∨ letter = 'h' then (t.nodeOf here path false).toOption.any Node.isLink
  else (t.nodeOf here path).toOption.any (ofNode letter)

/-- When what a path leads to was last changed. -/
def modified? (t : Tree) (here : Place) (path : Text) : Option Int := ((t.nodeOf here path).toOption).map Node.modified

/-- Whether two paths lead to the same node. -/
def same (t : Tree) (here : Place) (a b : Text) : Bool :=
  match t.lookup here a, t.lookup here b with
  | .ok p, .ok q => p = q
  | _, _ => false

end Buildfile.FileTest
