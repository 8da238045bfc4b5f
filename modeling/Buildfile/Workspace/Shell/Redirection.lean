import Buildfile.Workspace.Shell.Expansion
import Buildfile.Workspace.Shell.Lookup
/-!
# Redirections

A redirection lets a descriptor lead to a file, to a document of the script, to where another descriptor leads,
or nowhere. What the descriptor led to before is kept under a number that programs do not get, and put back
afterwards.
-/

namespace Buildfile.Shell

/-- Where a descriptor is to lead. -/
inductive Goal where
  | file (direction : Direction) (path : Text)
  /-- To where another descriptor leads, or nowhere. -/
  | descriptor (fd : Option Nat)
  | document (w : Word)
  deriving Inhabited

/-- What a descriptor led to: the number that this is kept under, if it led anywhere. -/
abbrev Saved := List (Nat × Option Nat)

/-- The least descriptor under which others are kept. -/
def firstSaved : Nat := 10

/-! ## Goals -/

/-- The descriptor that a text names; a dash names none. -/
def descriptorOf (t : Text) : Act (Option Nat) := do
  match t with
  | ['-'] => return none
  | [c] => if c.isDigit then return some (c.toNat - '0'.toNat) else refuse
  | _ => refuse
where
  /-- Refuses a text that names no descriptor. -/
  refuse : Act (Option Nat) := do abortReading (← get).reached (lit "Syntax error: Bad fd number")

/-- Where a redirection leads to, in a script with some documents. -/
def goalOf (output : Output) (documents : List Word) : Redirection → Act (Nat × Goal)
  | .change fd direction target => do
    match direction with
    | .document n => return (fd, .document (documents[n]?.getD []))
    | .duplicate =>
      match ← expandFields output target with
      | [] => abort (lit "redir error")
      | t :: _ => return (fd, .descriptor (← descriptorOf t))
    | _ => return (fd, .file direction (← expandWhole output target))

/-- Where redirections lead to. -/
def goalsOf (output : Output) (documents : List Word) : List Redirection → Act (List (Nat × Goal))
  | [] => return []
  | r :: rs => do
    let g ← goalOf output documents r
    return g :: (← goalsOf output documents rs)

/-! ## Opening -/

/-- Opens a file that must not replace another one. -/
def openFresh (path : Text) : Program (Except Errno Nat) := do
  let there ← Program.inTree fun t here => (t.nodeOf here path).toOption
  match there.map Node.content with
  | some (.file _) | some (.program _) => return .error .alreadyExists
  | some _ => Program.attempt fun p s => (s.openPath p path (.write false)).map fun r => r.1.attachFree p r.2
  | none =>
    let dangling ← Program.inTree fun t here => (t.nodeOf here path false).isOk
    if dangling then return .error .alreadyExists else Program.openFile path (.write true)

/-- Opens a file for a redirection, and gives its descriptor. -/
def openTarget (direction : Direction) (path : Text) : Act Nat := do
  let fresh : Bool := direction = .output ∧ (← get).options.contains 'C'
  let access : System.Access := match direction with
    | .input => .read
    | .append => .append
    | .both => .both
    | _ => .write true
  let opened ← (if fresh then openFresh path else Program.openFile path access : Program (Except Errno Nat))
  match opened with
  | .ok fd => return fd
  | .error e =>
    if direction = .input then abort (lit "cannot open " ++ path ++ lit ": " ++ reasonText (lit "No such file") e)
    else abort (lit "cannot create " ++ path ++ lit ": " ++ reasonText (lit "Directory nonexistent") e)

/-- A descriptor from which a text is read. -/
def openText (t : Text) : Program Nat := Program.ask fun p s =>
  let k := s.pipes.size
  let (s, r, _) := s.addPipe
  let (s, fd) := s.attachFree p r
  (fd, { s with pipes := s.pipes.setIfInBounds k t })

/-! ## Changing descriptors -/

/-- Keeps what a descriptor leads to under another number, if it leads anywhere. -/
def saveDescriptor (fd : Nat) : Program (Option Nat) := Program.ask fun p s =>
  match s.opening? p fd with
  | none => (none, s)
  | some (o, _) =>
    let (s, kept) := s.attachFree p o firstSaved true
    (some kept, s.close p fd)

/-- Lets a descriptor lead to where another one leads. -/
def duplicate (source fd : Nat) : Act Unit := do
  let done ← (Program.attempt fun p s => (s.duplicate p source fd).map (·, ()) : Program (Except Errno Unit))
  match done with
  | .ok () => return ()
  | .error e => abort (Text.ofNat source ++ lit ": " ++ e.message)

/-- Lets a descriptor lead to a goal; what it led to is kept if `keeping`, and added to `saved`. -/
def redirect (output : Output) (keeping : Bool) (saved : Saved) (fd : Nat) (goal : Goal) :
    Act (Saved × Except Jump Unit) := do
  let opened ← outcome <| match goal with
    | .file direction path => do return some (← openTarget direction path)
    | .document w => do
      let t ← expandDocument output w
      return some (← (openText t : Program Nat))
    | .descriptor fd => return fd
  let borrowed := goal matches .descriptor _
  match opened with
  | .error j => return (saved, .error j)
  | .ok source =>
    if borrowed ∧ source = some fd then return (saved, .ok ())
    let saved ← if keeping ∧ !saved.any (·.1 = fd) then do
        let kept ← if source = some fd then pure none else (saveDescriptor fd : Program (Option Nat))
        pure ((fd, kept) :: saved)
      else pure saved
    let done ← outcome <| match source with
      | none => do (Program.close fd : Program Unit)
      | some n => do
        if n ≠ fd then
          duplicate n fd
          if !borrowed then (Program.close n : Program Unit)
    return (saved, done)

/-- Lets descriptors lead to goals, one after another up to the first one that cannot. -/
def redirectAll (output : Output) (keeping : Bool) : List (Nat × Goal) → Saved → Act (Saved × Except Jump Unit)
  | [], saved => return (saved, .ok ())
  | (fd, goal) :: rest, saved => do
    match ← redirect output keeping saved fd goal with
    | (saved, .ok ()) => redirectAll output keeping rest saved
    | r => return r

/-- Puts back what descriptors led to, or forgets it. -/
def restore (forget : Bool) (saved : Saved) : Program Unit := Program.change fun p s =>
  saved.foldl (fun s e =>
    match e.2 with
    | none => if forget then s else s.close p e.1
    | some kept =>
      let s := if forget then s else (s.duplicate p kept e.1).toOption.getD s
      s.close p kept) s

/-- Does something while descriptors lead to goals, or something else if they cannot. What was done is told the
descriptor that now leads to where standard error led before. Afterwards the descriptors are as they were, unless
they are to stay. -/
def whileRedirected {α : Type} (output : Output) (stay : Bool) (goals : List (Nat × Goal))
    (body : (formerError : Nat) → Act α) (refused : Act α) : Act α := do
  let (saved, done) ← redirectAll output true goals []
  match done with
  | .error j =>
    (restore false saved : Program Unit)
    if j = .fault then refused else throw j
  | .ok () =>
    let r ← outcome (body (((saved.lookup 2).bind id).getD 2))
    (restore (stay && r.isOk) saved : Program Unit)
    settle r

end Buildfile.Shell
