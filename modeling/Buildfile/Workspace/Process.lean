import Buildfile.Workspace.System
/-!
# Processes

A process is a tree of requests: it looks at the system and changes it, waits for it, starts a copy of itself
or becomes another program, until it ends. What it asks for is a function of the system, so the tree says
nothing of other processes, and whoever runs it decides how they take turns.

A `Program α` is a part of a process that comes to a value; programs are put together as a monad, and
`Program.process` makes a process of one that comes to a status.
-/

namespace Buildfile

/-- What a process does, where a number says which task it is. -/
inductive Process where
  /-- It ends with a status. -/
  | finish (status : Int)
  /-- It asks the system something and goes on. -/
  | step (f : Nat → System → Process × System)
  /-- It waits until the system can answer. -/
  | await (f : Nat → System → Option (Process × System))
  /-- It starts a copy of its task, and goes on with the number of the copy. -/
  | fork (child : Process) (next : Nat → Process)
  /-- It becomes the program at a path, or goes on with the reason why it cannot. -/
  | execute (path : Text) (arguments : List Text) (environment : Environment) (refused : Errno → Process)

instance : Inhabited Process := ⟨.finish 0⟩

/-- A part of a process that comes to a value. -/
def Program (α : Type) : Type := (α → Process) → Process

namespace Program

variable {α β : Type}

instance : Monad Program where
  pure a := fun k => k a
  bind m f := fun k => m fun a => f a k

instance : Inhabited (Program α) := ⟨fun _ => .finish 0⟩

/-- The process that ends with the value of a program. -/
def process (m : Program Int) : Process := m .finish

/-- Asks the system something. -/
def ask (f : Nat → System → α × System) : Program α := fun k => .step fun p s =>
  let (a, s) := f p s
  (k a, s)

/-- Waits for an answer of the system. -/
def await (f : Nat → System → Option (α × System)) : Program α := fun k => .await fun p s =>
  (f p s).map fun r => (k r.1, r.2)

/-- Ends the process. -/
def exit (status : Int) : Program α := fun _ => .finish status

/-- Starts a copy of the process that does something else, and gives its number. -/
def fork (child : Program Int) : Program Nat := fun k => .fork child.process k

/-- Becomes the program at a path; the reason is given if that cannot be. -/
def execute (path : Text) (arguments : List Text) (environment : Environment) : Program Errno := fun k =>
  .execute path arguments environment k

/-- Looks at the system. -/
def look (f : Nat → System → α) : Program α := ask fun p s => (f p s, s)

/-- Changes the system. -/
def change (f : Nat → System → System) : Program Unit := ask fun p s => ((), f p s)

/-- Changes the system if it does not refuse. -/
def attempt (f : Nat → System → Except Errno (System × α)) : Program (Except Errno α) := ask fun p s =>
  match f p s with
  | .ok (s, a) => (.ok a, s)
  | .error e => (.error e, s)

/-! ## The task -/

/-- The task of the process. -/
def task : Program Task := look fun p s => s.task p

/-- The file tree. -/
def tree : Program Tree := look fun _ s => s.tree

/-- The directory that the process works in. -/
def here : Program Place := return (← task).here

/-- Looks something up in the file tree from the directory that the process works in. -/
def inTree (f : Tree → Place → α) : Program α := look fun p s => f s.tree (s.task p).here

/-- Changes the file tree, at a time and with the permissions that new files do not get. -/
def onTree (f : Tree → Place → (mask : Nat) → (now : Int) → Except Errno Tree) : Program (Except Errno Unit) :=
  attempt fun p s =>
    let t := s.task p
    (f s.tree t.here t.mask s.now).map fun tree => ({ s with tree }, ())

/-! ## Files -/

/-- Opens a file and gives its descriptor. -/
def openFile (path : Text) (access : System.Access) : Program (Except Errno Nat) := attempt fun p s =>
  (s.openPath p path access).map fun r => r.1.attachFree p r.2

/-- Closes a descriptor. -/
def close (fd : Nat) : Program Unit := change fun p s => s.close p fd

/-- Whether a caught signal has come to a task. -/
def interrupts (p : Nat) (s : System) : Bool := (s.task p).pending ≠ []

/-- Reads at most so many bytes; a caught signal may come before them. -/
def read (fd count : Nat) : Program (Except Errno Text) := await fun p s =>
  match s.read p fd count with
  | some r => some r
  | none => if interrupts p s then some (.error .interrupted, s) else none

/-- The number of bytes that are read at once. -/
def blockSize : Nat := 65536

/-- The most rounds of a loop whose end only the system knows. -/
def rounds : Nat := 1000000000

/-- Reads up to the end, in at most so many blocks, after what has been read. -/
def readBlocks (fd : Nat) : Nat → (blocks : List Text) → Program (Except Errno Text)
  | 0, blocks => return .ok blocks.reverse.flatten
  | n + 1, blocks => do
    match ← read fd blockSize with
    | .error e => return .error e
    | .ok [] => return .ok blocks.reverse.flatten
    | .ok b => readBlocks fd n (b :: blocks)

/-- Reads up to the end. -/
def readAll (fd : Nat) : Program (Except Errno Text) := readBlocks fd rounds []

/-- Reads the rest of a line in at most so many bytes, after what has been read; the flag tells whether the line
has an end. -/
def readLineAfter (fd : Nat) : Nat → Text → Program (Text × Bool)
  | 0, line => return (line.reverse, false)
  | n + 1, line => do
    match ← read fd 1 with
    | .ok ['\n'] => return (line.reverse, true)
    | .ok [c] => readLineAfter fd n (c :: line)
    | _ => return (line.reverse, false)

/-- Reads a line, byte by byte, so that what follows it can be read by others. -/
def readLine (fd : Nat) : Program (Text × Bool) := readLineAfter fd rounds []

/-- Reads the file at a path. -/
def readFile (path : Text) : Program (Except Errno Text) := do
  match ← openFile path .read with
  | .error e => return .error e
  | .ok fd =>
    let content ← readAll fd
    close fd
    return content

/-- Writes all of some bytes in at most so many parts. -/
def writeParts (fd : Nat) : Nat → Text → Program (Except Errno Unit)
  | 0, _ => return .ok ()
  | n + 1, content => do
    match ← await fun p s => s.write p fd content with
    | .error e => return .error e
    | .ok k => if content.length ≤ k then return .ok () else writeParts fd n (content.drop k)

/-- Writes all of some bytes. -/
def write (fd : Nat) (content : Text) : Program (Except Errno Unit) :=
  if content = [] then return .ok () else writeParts fd rounds content

/-! ## Pipes -/

/-- Makes a pipe, and gives the descriptors of the end that is read and the one that is written. -/
def makePipe : Program (Nat × Nat) := ask fun p s =>
  let (s, r, w) := s.addPipe
  let (s, reader) := s.attachFree p r
  let (s, writer) := s.attachFree p w
  ((reader, writer), s)

/-- Moves what a descriptor leads to to another one. -/
def moveDescriptor (old new : Nat) : Program Unit :=
  if old = new then return ()
  else change fun p s => ((s.duplicate p old new).toOption.getD s).close p old

/-! ## Other processes -/

/-- Waits until a child has ended: any one, or a certain one. A caught signal may come before. -/
def wait (child : Option Nat) : Program (Except Errno (Nat × Int)) := await fun p s =>
  match s.collect p child with
  | some r => some r
  | none => if interrupts p s then some (.error .interrupted, s) else none

/-- Waits for so many nanoseconds, or for a caught signal. -/
def sleep (time : Nat) : Program Unit := do
  let wake ← ask fun p s =>
    let wake := s.clock + time
    (wake, s.changeTask p fun t => { t with alarm := some wake })
  await fun p s =>
    if wake ≤ s.clock ∨ interrupts p s then some ((), s.changeTask p fun t => { t with alarm := none }) else none

/-- Sends a signal to a process. -/
def send (target signal : Nat) : Program (Except Errno Unit) := attempt fun _ s =>
  (s.send target signal).map fun s => (s, ())

end Program

end Buildfile
