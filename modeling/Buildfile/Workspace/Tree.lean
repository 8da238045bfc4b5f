import Buildfile.Text.Octets
import Buildfile.Workspace.Errno
import Buildfile.Workspace.Path
/-!
# File trees

A file tree is an array of nodes, in which a directory gives its entries the numbers of other nodes, so a
file may have several names and none. The root is number zero. Paths and names are octets.

`locate` walks a path and ends at a node or at a free name in a directory; every operation on a path starts
with it, and fails as the system's calls do.
-/

namespace Buildfile

/-- The number of a node. -/
abbrev Place := Nat

/-- A file that is no data on a disk. -/
inductive Device where
  /-- Empty, whatever is written to it. -/
  | null
  /-- Zero bytes without an end. -/
  | zero
  /-- Zero bytes without an end, and no room for anything. -/
  | full
  /-- What a descriptor of the process leads to. -/
  | descriptor (n : Nat)
  deriving DecidableEq, Inhabited

/-- What a node is. -/
inductive Content where
  /-- A directory with its entries and the directory that it is in. -/
  | directory (entries : List (Text × Place)) (parent : Place)
  | file (content : Text)
  /-- A link to a path. -/
  | link (target : Text)
  | device (d : Device)
  /-- A program of the system, known by its name. -/
  | program (name : Text)
  deriving DecidableEq, Inhabited

/-- When a file tree is set up, in nanoseconds. -/
def beginning : Nat := 1735689600000000000

/-- A node of a file tree. -/
structure Node where
  content : Content
  /-- The bits of its permissions. -/
  mode : Nat := 0o644
  /-- When its content was last changed, in nanoseconds. -/
  modified : Int := beginning
  deriving DecidableEq, Inhabited

namespace Node

/-- An empty directory in another one. -/
def directory (parent : Place) (mode : Nat := 0o755) (modified : Int := beginning) : Node :=
  { content := .directory [] parent, mode, modified }

/-- Whether the node holds other nodes. -/
def isDirectory (n : Node) : Bool :=
  match n.content with
  | .directory _ _ => true
  | _ => false

/-- Whether the node is a link. -/
def isLink (n : Node) : Bool :=
  match n.content with
  | .link _ => true
  | _ => false

/-- Whether the node may be executed by somebody. -/
def mayExecute (n : Node) : Bool := n.mode &&& 0o111 != 0

/-- The bytes that the node holds. -/
def bytes (n : Node) : Text :=
  match n.content with
  | .file b => b
  | _ => []

end Node

/-- The nodes below the root, by their numbers. -/
structure Tree where
  nodes : Array Node := #[.directory 0]
  deriving DecidableEq, Inhabited

/-- Where a path ends. -/
structure Spot where
  /-- The directory that the last component is looked up in. -/
  directory : Place
  /-- The last component; a path that ends at the root has none. -/
  name : Text
  /-- The node that is there, if any. -/
  node : Option Place
  /-- Whether the path ends with a slash. -/
  slash : Bool := false
  deriving DecidableEq, Inhabited

namespace Spot

/-- Whether the path ends with a name of its own, and not at the root, with `.` or with `..`. -/
def named (s : Spot) : Bool := s.name ≠ [] && s.name ≠ ['.'] && s.name ≠ ['.', '.']

end Spot

namespace Tree

/-- The root. -/
def root : Place := 0

/-- The node at a place. -/
def at? (t : Tree) (p : Place) : Option Node := t.nodes[p]?

/-- The tree with another node at a place. -/
def put (t : Tree) (p : Place) (n : Node) : Tree := { t with nodes := t.nodes.setIfInBounds p n }

/-- The tree with a node changed. -/
def change (t : Tree) (p : Place) (f : Node → Node) : Tree := { t with nodes := t.nodes.modify p f }

/-- Whether a place is a directory. -/
def isDirectory (t : Tree) (p : Place) : Bool := (t.at? p).any Node.isDirectory

/-- The entries of a directory. -/
def entries (t : Tree) (p : Place) : List (Text × Place) :=
  match (t.at? p).map Node.content with
  | some (.directory es _) => es
  | _ => []

/-- The directory that a directory is in. -/
def parent (t : Tree) (p : Place) : Place :=
  match (t.at? p).map Node.content with
  | some (.directory _ q) => q
  | _ => root

/-- What a name in a directory stands for. -/
def child? (t : Tree) (p : Place) (name : Text) : Option Place := ((t.entries p).find? (·.1 = name)).map (·.2)

/-- The names in a directory, in order. -/
def children (t : Tree) (p : Place) : List Text := Text.sorted ((t.entries p).map (·.1))

/-- The tree with the entries of a directory changed. -/
def changeEntries (t : Tree) (p : Place) (f : List (Text × Place) → List (Text × Place)) : Tree :=
  t.change p fun n => match n.content with
    | .directory es q => { n with content := .directory (f es) q }
    | _ => n

/-- The tree with a name in a directory for a node. -/
def enter (t : Tree) (p : Place) (name : Text) (q : Place) : Tree :=
  t.changeEntries p fun es => es.filter (·.1 ≠ name) ++ [(name, q)]

/-- The tree without a name in a directory. -/
def leave (t : Tree) (p : Place) (name : Text) : Tree := t.changeEntries p fun es => es.filter (·.1 ≠ name)

/-- The tree with a new node under a name in a directory, and the place of the node. -/
def add (t : Tree) (p : Place) (name : Text) (n : Node) : Tree × Place :=
  let q := t.nodes.size
  (({ t with nodes := t.nodes.push n } : Tree).enter p name q, q)

/-! ## Walking -/

/-- Walks components from a directory; `onLink` goes on with a link that is followed. The last component is
followed if the path ends with a slash or if `follow`. -/
def walkWith (t : Tree) (follow slash : Bool) (onLink : Place → List Text → Except Errno Spot) :
    Place → List Text → Except Errno Spot
  | p, [] => .ok { directory := p, name := [], node := some p, slash }
  | p, c :: cs =>
    if c = ['.'] then
      if cs = [] then .ok { directory := p, name := c, node := some p, slash } else walkWith t follow slash onLink p cs
    else if c = ['.', '.'] then
      let q := t.parent p
      if cs = [] then .ok { directory := p, name := c, node := some q, slash } else walkWith t follow slash onLink q cs
    else if Path.maxComponent < c.length then .error .nameTooLong
    else
      match t.child? p c with
      | none => if cs = [] then .ok { directory := p, name := c, node := none, slash } else .error .noEntry
      | some q =>
        match (t.at? q).map Node.content with
        | some (.directory _ _) =>
          if cs = [] then .ok { directory := p, name := c, node := some q, slash } else walkWith t follow slash onLink q cs
        | some (.link target) =>
          if cs = [] ∧ !follow ∧ !slash then .ok { directory := p, name := c, node := some q, slash }
          else onLink (if Path.isAbsolute target then root else p) (Path.names target ++ cs)
        | _ =>
          if cs = [] ∧ !slash then .ok { directory := p, name := c, node := some q, slash } else .error .notDirectory

/-- Walks components from a directory through at most so many links. -/
def walk (t : Tree) (follow slash : Bool) : (links : Nat) → Place → List Text → Except Errno Spot
  | 0, _, _ => .error .tooManyLevels
  | n + 1, p, cs => walkWith t follow slash (walk t follow slash n) p cs

/-- The most links on a path. -/
def maxLinks : Nat := 40

/-- Where a path leads from the directory `here`; a link at its end is followed if `follow`. -/
def locate (t : Tree) (here : Place) (path : Text) (follow : Bool := true) : Except Errno Spot :=
  if path = [] then .error .noEntry
  else if Path.maxLength < path.length then .error .nameTooLong
  else
    let names := Path.names path
    let slash := names ≠ [] && path.getLast? = some '/'
    t.walk follow slash (maxLinks + 1) (if Path.isAbsolute path then root else here) names

/-- The place that a path leads to. -/
def lookup (t : Tree) (here : Place) (path : Text) (follow : Bool := true) : Except Errno Place :=
  match t.locate here path follow with
  | .error e => .error e
  | .ok s => s.node.elim (.error .noEntry) .ok

/-- The node that a path leads to. -/
def nodeOf (t : Tree) (here : Place) (path : Text) (follow : Bool := true) : Except Errno Node :=
  (t.lookup here path follow).bind fun p => (t.at? p).elim (.error .noEntry) .ok

/-- The directory that a path leads to. -/
def directoryOf (t : Tree) (here : Place) (path : Text) : Except Errno Place :=
  (t.lookup here path).bind fun p => if t.isDirectory p then .ok p else .error .notDirectory

/-- Whether a path leads to a node. -/
def contains (t : Tree) (here : Place) (path : Text) : Bool := (t.lookup here path).isOk

/-- The bytes of the file that a path leads to. -/
def read (t : Tree) (here : Place) (path : Text) : Except Errno Text :=
  (t.nodeOf here path).bind fun n => if n.isDirectory then .error .isDirectory else .ok n.bytes

/-- The name of a place in a directory. -/
def nameIn? (t : Tree) (p q : Place) : Option Text := ((t.entries p).find? (·.2 = q)).map (·.1)

/-- The names that lead to a directory from the root, which is at most so many levels away. -/
def namesTo? (t : Tree) : Nat → Place → Option (List Text)
  | 0, _ => none
  | k + 1, p =>
    if p = root then some []
    else
      let q := t.parent p
      match t.nameIn? q p, t.namesTo? k q with
      | some name, some names => some (names ++ [name])
      | _, _ => none

/-- The path of a directory, unless it has been removed. -/
def pathTo? (t : Tree) (p : Place) : Option Text :=
  (t.namesTo? (t.nodes.size + 1) p).map fun names => '/' :: ['/'].intercalate names

/-- Whether a directory is another one or below it. -/
def isWithin (t : Tree) (p q : Place) : Bool := go (t.nodes.size + 1) q
where
  /-- Whether `p` is among so many directories from `q` upwards. -/
  go : Nat → Place → Bool
    | 0, _ => false
    | k + 1, q => q = p || (q ≠ root && go k (t.parent q))

/-! ## Changes -/

/-- Where the last component of a path is, which is not followed even if slashes come after it. -/
def entryOf (t : Tree) (here : Place) (path : Text) : Except Errno Spot :=
  let bare := Path.withoutSlashes path
  (t.locate here bare false).map fun s => { s with slash := bare ≠ path }

/-- The tree with a directory at a path that was free. -/
def makeDirectory (t : Tree) (here : Place) (path : Text) (mode : Nat := 0o755) (now : Int := 0) : Except Errno Tree :=
  match t.entryOf here path with
  | .error e => .error e
  | .ok { node := some _, .. } => .error .alreadyExists
  | .ok { directory, name, .. } => .ok (t.add directory name (.directory directory mode now)).1

/-- The tree with the file at a path made, or emptied if `truncate`, and the place of the file. -/
def openFile (t : Tree) (here : Place) (path : Text) (truncate : Bool) (mode : Nat := 0o644) (now : Int := 0) :
    Except Errno (Tree × Place) :=
  let bare := Path.withoutSlashes path
  match t.locate here bare with
  | .error e => .error e
  | .ok { directory, name, node := none, .. } =>
    if bare ≠ path then .error .isDirectory
    else .ok (t.add directory name { content := .file [], mode, modified := now })
  | .ok { node := some p, .. } =>
    if bare ≠ path then .error .isDirectory
    else match (t.at? p).map Node.content with
    | some (.directory _ _) => .error .isDirectory
    | some (.program _) => .error .textBusy
    | some (.file _) =>
      .ok (if truncate then t.change p fun n => { n with content := .file [], modified := now } else t, p)
    | _ => .ok (t, p)

/-- The tree without the name of a file. -/
def unlink (t : Tree) (here : Place) (path : Text) : Except Errno Tree :=
  match t.entryOf here path with
  | .error e => .error e
  | .ok s =>
    match s.node with
    | none => .error .noEntry
    | some p =>
      if !s.named ∨ t.isDirectory p then .error .isDirectory
      else if s.slash then .error .notDirectory
      else .ok (t.leave s.directory s.name)

/-- The tree without an empty directory. -/
def removeDirectory (t : Tree) (here : Place) (path : Text) : Except Errno Tree :=
  match t.entryOf here path with
  | .error e => .error e
  | .ok s =>
    match s.node with
    | none => .error .noEntry
    | some p =>
      if s.name = ['.'] then .error .invalidArgument
      else if s.name = ['.', '.'] then .error .notEmpty
      else if s.name = [] then .error .busy
      else if !t.isDirectory p then .error .notDirectory
      else if t.entries p ≠ [] then .error .notEmpty
      else .ok (t.leave s.directory s.name)

/-- The tree with a further name for a file. -/
def link (t : Tree) (here : Place) (old new : Text) (follow : Bool := false) : Except Errno Tree :=
  match t.lookup here old follow with
  | .error e => .error e
  | .ok p =>
    match t.entryOf here new with
    | .error e => .error e
    | .ok { node := some _, .. } => .error .alreadyExists
    | .ok s =>
      if s.slash then .error .noEntry
      else if t.isDirectory p then .error .notPermitted
      else .ok (t.enter s.directory s.name p)

/-- The tree with a link to a path. -/
def symlink (t : Tree) (here : Place) (target path : Text) (now : Int := 0) : Except Errno Tree :=
  if target = [] then .error .noEntry
  else match t.entryOf here path with
    | .error e => .error e
    | .ok { node := some _, .. } => .error .alreadyExists
    | .ok s =>
      if s.slash then .error .noEntry
      else .ok (t.add s.directory s.name { content := .link target, mode := 0o777, modified := now }).1

/-- The tree with another name for a node; what had the name before is gone. -/
def rename (t : Tree) (here : Place) (old new : Text) : Except Errno Tree :=
  match t.entryOf here old, t.entryOf here new with
  | .error e, _ | _, .error e => .error e
  | .ok a, .ok b =>
    if !a.named ∨ !b.named then .error .busy
    else match a.node with
      | none => .error .noEntry
      | some p =>
        let whole := t.isDirectory p
        if !whole ∧ (a.slash ∨ b.slash) then .error .notDirectory
        else if whole ∧ t.isWithin p b.directory then .error .invalidArgument
        else
          let moved (t : Tree) : Tree :=
            let t := (t.leave a.directory a.name).enter b.directory b.name p
            if whole then t.change p fun n => { n with content := .directory (t.entries p) b.directory } else t
          match b.node with
          | none => .ok (moved t)
          | some q =>
            if p = q then .ok t
            else if whole ∧ !t.isDirectory q then .error .notDirectory
            else if !whole ∧ t.isDirectory q then .error .isDirectory
            else if whole ∧ t.entries q ≠ [] then .error .notEmpty
            else .ok (moved t)

/-- The tree with other permissions for the node that a path leads to. -/
def setMode (t : Tree) (here : Place) (path : Text) (mode : Nat) : Except Errno Tree :=
  (t.lookup here path).map fun p => t.change p fun n => { n with mode }

/-- The tree with a node changed at a time. -/
def setModified (t : Tree) (p : Place) (time : Int) : Tree := t.change p fun n => { n with modified := time }

/-! ## Setting up -/

/-- The tree with every directory on the way along some components, and where they lead. -/
def makeWay (t : Tree) (here : Place) : List Text → Tree × Place
  | [] => (t, here)
  | c :: cs =>
    if c = ['.'] then makeWay t here cs
    else if c = ['.', '.'] then makeWay t (t.parent here) cs
    else match t.child? here c with
      | some p => makeWay t p cs
      | none =>
        let (t, p) := t.add here c (.directory here)
        makeWay t p cs

/-- The tree with a directory at a path from `here`, those on the way, and its place. -/
def installDirectory (t : Tree) (here : Place) (path : Text) : Tree × Place := t.makeWay here (Path.names path)

/-- The tree with a node at a path from `here`, and the directories on the way. -/
def install (t : Tree) (here : Place) (path : Text) (n : Node) : Tree :=
  let names := Path.names path
  let (t, p) := t.makeWay here names.dropLast
  (t.add p (names.getLastD []) n).1

/-- The tree with a file at a path from `here`, and the directories on the way. -/
def installFile (t : Tree) (here : Place) (path content : Text) : Tree := t.install here path { content := .file content }

/-- The tree with the file at a path marked as executable. -/
def allowExecution (t : Tree) (here : Place) (path : Text) : Tree := (t.setMode here path 0o755).toOption.getD t

/-- The tree without what a path leads to. -/
def remove (t : Tree) (here : Place) (path : Text) : Tree :=
  match t.locate here path false with
  | .ok { directory, name, node := some _, .. } => t.leave directory name
  | _ => t

/-- Everything below a directory that is at most so many levels deep, as paths after `path`; directories end
with a slash. -/
def pathsBelow (t : Tree) : Nat → (path : Text) → Place → List Text
  | 0, _, _ => []
  | k + 1, path, p =>
    (t.entries p).flatMap fun e =>
      if t.isDirectory e.2 then (path ++ e.1 ++ ['/']) :: pathsBelow t k (path ++ e.1 ++ ['/']) e.2 else [path ++ e.1]

/-- Everything below a directory, as paths from it in order; directories end with a slash. -/
def listing (t : Tree) (p : Place) : List Text :=
  Text.sorted ((t.pathsBelow (t.nodes.size + 1) [] p).map Octets.toText)

end Tree

end Buildfile
