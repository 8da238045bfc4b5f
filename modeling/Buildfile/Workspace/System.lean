import Buildfile.Settings
import Buildfile.Workspace.Signal
import Buildfile.Workspace.Tree
/-!
# The system

The system keeps what processes share: the file tree, the files that they have opened, the pipes between
them, and a clock. Of each process it keeps a task: its arguments, its environment, its descriptors, and
whether it has ended. Every operation of this module is one request of a process to the system.

A descriptor leads to an opening, which has an offset of its own and is shared by all descriptors that are
duplicates of one another. A request that cannot be met yet gives nothing.
-/

namespace Buildfile

/-- What an opening leads to. -/
inductive Target where
  | node (p : Place)
  | pipe (n : Nat)
  | device (d : Device)
  /-- The standard output of whoever started the system. -/
  | out
  /-- The standard error of whoever started the system. -/
  | err
  deriving DecidableEq, Inhabited

/-- An opened file. -/
structure Opening where
  target : Target
  readable : Bool := true
  writable : Bool := true
  /-- Whether all that is written goes to the end. -/
  appends : Bool := false
  /-- Where the next byte is read or written. -/
  offset : Nat := 0
  deriving Inhabited

/-- A descriptor of a task. -/
structure Descriptor where
  opening : Nat
  /-- Whether it is closed when the task executes a program. -/
  closes : Bool := false
  deriving Inhabited

/-- What a task does with a signal that it does not leave to the system. -/
inductive Disposition where
  | ignored
  | caught
  deriving DecidableEq, Inhabited

/-- What the system knows of a process. -/
structure Task where
  parent : Nat := 0
  arguments : List Text := []
  environment : Environment := {}
  here : Place := Tree.root
  /-- The permissions that new files do not get. -/
  mask : Nat := 0o022
  descriptors : Table Nat Descriptor := {}
  dispositions : Table Nat Disposition := {}
  /-- The caught signals that have come. -/
  pending : List Nat := []
  /-- When the task wants to be woken. -/
  alarm : Option Nat := none
  stopped : Bool := false
  /-- The status that it has ended with; one below zero names a signal. -/
  ended : Option Int := none
  deriving Inhabited

/-- What processes share. -/
structure System where
  tree : Tree := {}
  /-- The time in nanoseconds. -/
  clock : Nat := beginning
  openings : Array Opening := #[]
  pipes : Array Text := #[]
  tasks : Table Nat Task := {}
  nextTask : Nat := 4096
  /-- What has been written to the outside, the latest first, and whether to its standard error. -/
  output : List (Bool × Text) := []
  deriving Inhabited

namespace System

/-! ## Tasks -/

/-- The task with a number. -/
def task (s : System) (p : Nat) : Task := (s.tasks.get? p).getD {}

/-- The system with a task changed. -/
def changeTask (s : System) (p : Nat) (f : Task → Task) : System :=
  match s.tasks.get? p with
  | some t => { s with tasks := s.tasks.set p (f t) }
  | none => s

/-- The time for the nodes of the tree. -/
def now (s : System) : Int := s.clock

/-- The system with a new task, and its number. -/
def addTask (s : System) (t : Task) : System × Nat :=
  ({ s with tasks := s.tasks.set s.nextTask t, nextTask := s.nextTask + 1 }, s.nextTask)

/-- The system with a copy of a task as its child. -/
def fork (s : System) (p : Nat) : System × Nat := s.addTask { s.task p with parent := p, pending := [], alarm := none }

/-! ## Descriptors -/

/-- The opening that a descriptor leads to. -/
def opening? (s : System) (p fd : Nat) : Option (Nat × Opening) :=
  ((s.task p).descriptors.get? fd).bind fun d => (s.openings[d.opening]?).map (d.opening, ·)

/-- The system with a further opening, and its number. -/
def addOpening (s : System) (o : Opening) : System × Nat := ({ s with openings := s.openings.push o }, s.openings.size)

/-- The system in which a descriptor leads to an opening. -/
def attach (s : System) (p fd opening : Nat) (closes : Bool := false) : System :=
  s.changeTask p fun t => { t with descriptors := t.descriptors.set fd { opening, closes } }

/-- The system without a descriptor. -/
def close (s : System) (p fd : Nat) : System := s.changeTask p fun t => { t with descriptors := t.descriptors.erase fd }

/-- The least of so many numbers from `first` on that is no descriptor. -/
def unused (ds : Table Nat Descriptor) : (count first : Nat) → Nat
  | 0, n => n
  | k + 1, n => if (ds.get? n).isSome then unused ds k (n + 1) else n

/-- The least descriptor from `first` on that is free. -/
def freeDescriptor (s : System) (p first : Nat) : Nat :=
  let ds := (s.task p).descriptors
  unused ds (ds.entries.length + 1) first

/-- The system with an opening under the least free descriptor, and the descriptor. -/
def attachFree (s : System) (p opening : Nat) (first : Nat := 0) (closes : Bool := false) : System × Nat :=
  let fd := s.freeDescriptor p first
  (s.attach p fd opening closes, fd)

/-- The system with a duplicate of a descriptor. -/
def duplicate (s : System) (p fd copy : Nat) : Except Errno System :=
  match s.opening? p fd with
  | some (n, _) => .ok (s.attach p copy n)
  | none => .error .badDescriptor

/-! ## Opening files -/

/-- How a file is opened. -/
inductive Access where
  | read
  /-- For writing; the file is made if there is none, and emptied if `truncate`. -/
  | write (truncate : Bool)
  | append
  /-- For reading and writing; the file is made if there is none. -/
  | both
  deriving DecidableEq, Inhabited

/-- The opening of a node. -/
def openNode (s : System) (p : Nat) (access : Access) (place : Place) : Except Errno (System × Nat) :=
  let opening (target : Target) : Opening :=
    { target, readable := access = .read ∨ access = .both, writable := access ≠ .read, appends := access = .append }
  match (s.tree.at? place).map Node.content with
  | none => .error .noEntry
  | some (.device (.descriptor fd)) =>
    match s.opening? p fd with
    | some (n, _) => .ok (s, n)
    | none => .error .noEntry
  | some (.device d) => .ok (s.addOpening (opening (.device d)))
  | some (.directory _ _) => if access = .read then .ok (s.addOpening (opening (.node place))) else .error .isDirectory
  | some (.program _) => if access = .read then .ok (s.addOpening (opening (.node place))) else .error .textBusy
  | some _ => .ok (s.addOpening (opening (.node place)))

/-- The system with an opening of the file at a path, and the number of the opening. -/
def openPath (s : System) (p : Nat) (path : Text) (access : Access) (mode : Nat := 0o666) :
    Except Errno (System × Nat) :=
  let t := s.task p
  match access with
  | .read => (s.tree.lookup t.here path).bind (s.openNode p access)
  | _ =>
    (s.tree.openFile t.here path (access = .write true) (mode &&& (0o777 ^^^ (t.mask &&& 0o777))) s.now).bind fun r =>
      ({ s with tree := r.1 } : System).openNode p access r.2

/-- The system with a pipe, and the openings of its two ends. -/
def addPipe (s : System) : System × Nat × Nat :=
  let n := s.pipes.size
  let s := { s with pipes := s.pipes.push [] }
  let (s, r) := s.addOpening { target := .pipe n, writable := false }
  let (s, w) := s.addOpening { target := .pipe n, readable := false }
  (s, r, w)

/-- Whether some descriptor leads to an opening with a property. -/
def isHeld (s : System) (f : Opening → Bool) : Bool :=
  s.tasks.entries.any fun e => e.2.descriptors.entries.any fun d => (s.openings[d.2.opening]?).any f

/-- Whether a pipe may still be written to. -/
def hasWriter (s : System) (n : Nat) : Bool := s.isHeld fun o => o.target = .pipe n && o.writable

/-- Whether a pipe may still be read. -/
def hasReader (s : System) (n : Nat) : Bool := s.isHeld fun o => o.target = .pipe n && o.readable

/-! ## Reading and writing -/

/-- The system with the offset of an opening moved. -/
def moveTo (s : System) (opening offset : Nat) : System :=
  { s with openings := s.openings.modify opening fun o => { o with offset } }

/-- The bytes of a node that can be read. -/
def nodeBytes (s : System) (p : Place) : Except Errno Text :=
  match s.tree.at? p with
  | some n => if n.isDirectory then .error .isDirectory else .ok n.bytes
  | none => .ok []

/-- Reads at most so many bytes from a descriptor. Without any, the end has been reached. -/
def read (s : System) (p fd count : Nat) : Option (Except Errno Text × System) :=
  match s.opening? p fd with
  | none => some (.error .badDescriptor, s)
  | some (n, o) =>
    if !o.readable then some (.error .badDescriptor, s)
    else match o.target with
      | .out | .err | .device .null | .device (.descriptor _) => some (.ok [], s)
      | .device _ => some (.ok (List.replicate count '\x00'), s)
      | .node place =>
        match s.nodeBytes place with
        | .error e => some (.error e, s)
        | .ok b =>
          let taken := (b.drop o.offset).take count
          some (.ok taken, s.moveTo n (o.offset + taken.length))
      | .pipe k =>
        match s.pipes[k]? with
        | some (c :: cs) =>
          some (.ok ((c :: cs).take count), { s with pipes := s.pipes.setIfInBounds k ((c :: cs).drop count) })
        | _ => if s.hasWriter k then none else some (.ok [], s)

/-- Bytes with others put over them from an offset on. -/
def overwrite (old : Text) (offset : Nat) (new : Text) : Text :=
  let before := old.take offset
  before ++ List.replicate (offset - before.length) '\x00' ++ new ++ old.drop (offset + new.length)

/-- The most bytes in a pipe. -/
def pipeSize : Nat := 65536

/-! ## Signals and ends -/

/-- The number of the signal that a child has ended. -/
def childSignal : Nat := 17

/-- The number of the signal that a pipe has no reader. -/
def pipeSignal : Nat := 13

/-- The system with a task ended; its descriptors are closed, and its parent may hear of it. -/
def finish (s : System) (p : Nat) (status : Int) : System :=
  let parent := (s.task p).parent
  let s := s.changeTask p fun t => { t with ended := t.ended.getD status, descriptors := {}, alarm := none }
  s.changeTask parent fun t =>
    if t.dispositions.get? childSignal = some .caught then { t with pending := t.pending ++ [childSignal] } else t

/-- The system after a signal has come to a task. -/
def deliver (s : System) (p : Nat) (signal : Nat) : System :=
  let t := s.task p
  let stops : Bool := [19, 20, 21, 22].contains signal
  let s := if signal = 18 then s.changeTask p fun t => { t with stopped := false } else s
  if t.ended.isSome then s
  else match if signal = 9 ∨ signal = 19 then none else t.dispositions.get? signal with
    | some .ignored => s
    | some .caught => s.changeTask p fun t => { t with pending := t.pending ++ [signal] }
    | none =>
      if stops then s.changeTask p fun t => { t with stopped := true }
      else if (Signal.ofNumber? signal).any Signal.ends then s.finish p (-(signal : Int))
      else s

/-- The system after a task has sent a signal to another one; the signal zero only looks whether there is one. -/
def send (s : System) (target signal : Nat) : Except Errno System :=
  if (s.tasks.get? target).isNone then .error .noProcess
  else .ok (if signal = 0 then s else s.deliver target signal)

/-- Writes bytes to a descriptor, as many as there is room for. -/
def write (s : System) (p fd : Nat) (content : Text) : Option (Except Errno Nat × System) :=
  match s.opening? p fd with
  | none => some (.error .badDescriptor, s)
  | some (n, o) =>
    if !o.writable then some (.error .badDescriptor, s)
    else match o.target with
      | .out => some (.ok content.length, { s with output := (false, content) :: s.output })
      | .err => some (.ok content.length, { s with output := (true, content) :: s.output })
      | .device .full => some (if content = [] then .ok 0 else .error .noSpace, s)
      | .device _ => some (.ok content.length, s)
      | .node place =>
        let old := ((s.tree.at? place).map Node.bytes).getD []
        let offset := if o.appends then old.length else o.offset
        let tree := s.tree.change place fun node =>
          match node.content with
          | .file _ => { node with content := .file (overwrite old offset content), modified := s.now }
          | _ => node
        some (.ok content.length, { s with tree }.moveTo n (offset + content.length))
      | .pipe k =>
        if content = [] then some (.ok 0, s)
        else if !s.hasReader k then some (.error .brokenPipe, s.deliver p pipeSignal)
        else
          let held := (s.pipes[k]?).getD []
          let room := pipeSize - held.length
          if room = 0 then none
          else
            let sent := content.take room
            some (.ok sent.length, { s with pipes := s.pipes.setIfInBounds k (held ++ sent) })

/-! ## Children -/

/-- Takes away a child that has ended: any one, or a certain one. Nothing comes as long as it has not ended;
an error comes if there is no such child. -/
def collect (s : System) (p : Nat) (wanted : Option Nat) : Option (Except Errno (Nat × Int) × System) :=
  let children := s.tasks.entries.filter fun e => e.2.parent = p ∧ wanted.all (· = e.1)
  match children.findSome? fun e => e.2.ended.map (e.1, ·) with
  | some (child, status) => some (.ok (child, status), { s with tasks := s.tasks.erase child })
  | none => if children.isEmpty then some (.error .noChild, s) else none

end System

end Buildfile
