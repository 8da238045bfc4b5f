import Buildfile.Workspace.FileTest
import Buildfile.Workspace.Permission
import Buildfile.Workspace.Utility.Backup
import Buildfile.Workspace.Utility.Naming
/-!
# Copying and moving

Utilities that put copies of files, or the files themselves, into other places. What is at a place already is
replaced, unless it is what would be put there, or a directory stands against another kind of file.
-/

namespace Buildfile.Utility

/-! ## How files are transferred -/

/-- Which links are followed. -/
inductive Following where
  | all
  /-- Those that are named as operands. -/
  | operands
  | none
  deriving DecidableEq, Inhabited

/-- What happens to files that would be replaced. -/
inductive Replacing where
  | always
  | asked
  /-- They are kept, and the utility fails. -/
  | refused
  /-- They are kept. -/
  | skipped
  /-- They are kept unless they are older. -/
  | older
  deriving DecidableEq, Inhabited

/-- How files are transferred. -/
structure Transfer where
  move : Bool := false
  recursive : Bool := false
  following : Following := .all
  force : Bool := false
  replacing : Replacing := .always
  verbose : Bool := false
  keepMode : Bool := false
  keepTime : Bool := false
  keepLinks : Bool := false
  symbolic : Bool := false
  hard : Bool := false
  removeFirst : Bool := false
  attributesOnly : Bool := false
  backup : Backup := .none
  suffix : Text := ['~']
  /-- The permissions of what is made, unless they are those of what is copied. -/
  mode : Option Nat := none
  deriving Inhabited

/-- What is remembered while several files are transferred. -/
structure Memory where
  /-- Whether there are several operands. -/
  several : Bool := false
  /-- The operands that have been copied. -/
  sources : List Place := []
  /-- What has been made. -/
  made : List Place := []
  /-- The directories that have been copied or made for an operand, and the paths of their copies. -/
  directories : List (Place × Text) := []
  /-- The copies of files that have several names. -/
  copies : List (Place × Text) := []
  /-- Whether a directory would have been copied into itself. -/
  turned : Bool := false
  deriving Inhabited

/-- A transfer from one path to another one, as the messages of its operand show them. -/
structure Route where
  top : Text
  topTarget : Text
  /-- Whether it is the operand itself that is transferred. -/
  isTop : Bool := true
  /-- Whether a directory has been made for the operand already. -/
  begun : Bool := false
  deriving Inhabited

/-- Shows a transfer. -/
def announce (name source target : Text) (kept : Option Text) (before : Text := []) : Program Unit :=
  put name (before ++ Quoting.always source ++ lit " -> " ++ Quoting.always target ++
    ((kept.map fun k => lit " (backup: " ++ Quoting.always k ++ [')']).getD []) ++ ['\n'])

/-- The number of names that lead to a node. -/
def linkCount (t : Tree) (p : Place) : Nat :=
  t.nodes.foldl (fun n x => match x.content with
    | .directory es _ => n + (es.filter (·.2 = p)).length
    | _ => n) 0

/-- Whether two paths are the same entry of the same directory. -/
def sameEntry (t : Tree) (here : Place) (a b : Text) : Bool :=
  match t.entryOf here a, t.entryOf here b with
  | .ok x, .ok y => x.directory = y.directory && x.name = y.name
  | _, _ => false

/-- Whether a file may be put to a path where there is something, which must not be the same. -/
def isOther (x : Transfer) (t : Tree) (here : Place) (source target : Text) (src dst : Place) : Bool :=
  let srcLink := ((t.nodeOf here source false).toOption.any Node.isLink)
  let dstLink := ((t.nodeOf here target false).toOption.any Node.isLink)
  let lstat (p : Text) : Option Place := (t.lookup here p false).toOption
  let sameLink : Bool := if x.following = .none then src = dst else (lstat source).isSome ∧ lstat source = lstat target
  let sameName := sameEntry t here source target
  let followed : Bool := (t.lookup here source).toOption.isSome ∧ (t.lookup here source).toOption = (t.lookup here target).toOption
  if x.following ≠ .none ∧ src ≠ dst then true
  else if x.following = .none ∧ srcLink ∧ dstLink then !sameName
  else if x.backup ≠ .none then
    if sameLink then !sameName else x.move || x.following = .none || !srcLink || dstLink
  else if (x.move ∨ x.removeFirst) ∧ dstLink then true
  else if (x.move ∨ x.removeFirst) ∧ sameLink ∧ 1 < linkCount t dst ∧ !sameName then !x.move
  else if !srcLink ∧ !dstLink then src ≠ dst
  else if x.symbolic ∧ dstLink then true
  else x.following = .none && !followed

/-- Reads the content of a file and writes it to another one that is opened in a way. -/
def pour (name : Text) (content : Text) (target : Text) (fd : Nat) : Program Int := do
  match ← Program.write fd content with
  | .ok () =>
    Program.close fd
    return 0
  | .error e =>
    complainOf name (lit "error writing " ++ Quoting.always target) e
    Program.close fd
    return 1

/-- Gives a copy the permissions and the time that it keeps. -/
def keep (x : Transfer) (n : Node) (target : Text) (isNew : Bool) : Program Unit := do
  if x.keepTime then
    Program.change fun p s =>
      match s.tree.lookup (s.task p).here target false with
      | .ok q => { s with tree := s.tree.setModified q n.modified }
      | .error _ => s
  match x.mode with
  | some m => discard <| Program.onTree fun t here _ _ => t.setMode here target m
  | none =>
    if x.keepMode then discard <| Program.onTree fun t here _ _ => t.setMode here target n.mode
    else if isNew then
      discard <| Program.onTree fun t here mask _ => t.setMode here target (Permission.without (n.mode &&& 0o777) mask)

/-- The result of a transfer: its status, and what is remembered. -/
abbrev Transferred := Int × Memory

/-- Removes what is in the way at a path. -/
def clearWay (name : Text) (x : Transfer) (target : Text) : Program Bool := do
  match ← Program.onTree fun t here _ _ => t.unlink here target with
  | .ok () =>
    if x.verbose then put name (lit "removed " ++ Quoting.always target ++ ['\n'])
    return true
  | .error e =>
    if e = .noEntry then return true
    complainOf name (lit "cannot remove " ++ Quoting.always target) e
    return false

/-- Copies the content of a file. -/
def copyContent (name : Text) (x : Transfer) (n : Node) (source target : Text) (isNew : Bool) : Program Int := do
  match ← Program.openFile source .read with
  | .error e =>
    complainOf name (lit "cannot open " ++ Quoting.always source ++ lit " for reading") e
    return 1
  | .ok input =>
    let dangling : Bool := isNew ∧ (← statLink target).toOption.any Node.isLink
    if dangling then
      complain name (lit "not writing through dangling symlink " ++ Quoting.always target)
      Program.close input
      return 1
    let failed (e : Errno) : Program Int := do
      let e := if e = .isDirectory ∧ target.getLast? = some '/' then .notDirectory else e
      complainOf name (lit "cannot create regular file " ++ Quoting.always target) e
      return 1
    let content ← Program.readAll input
    Program.close input
    match content with
    | .error e =>
      complainOf name (lit "error reading " ++ Quoting.always source) e
      return 1
    | .ok content =>
      match ← Program.openFile target (.write (!x.attributesOnly)) with
      | .ok fd =>
        let status ← pour name (if x.attributesOnly then [] else content) target fd
        keep x n target isNew
        return status
      | .error e =>
        if x.force ∧ !isNew then
          if ← clearWay name x target then
            match ← Program.openFile target (.write true) with
            | .ok fd =>
              let status ← pour name content target fd
              keep x n target true
              return status
            | .error e => failed e
          else return 1
        else if !isNew ∧ e ≠ .isDirectory then
          complainOf name (lit "cannot create regular file " ++ Quoting.always target) e
          return 1
        else failed e

/-- Makes a copy of what is no directory. -/
def copyFile (name : Text) (x : Transfer) (n : Node) (source target : Text) (isNew : Bool) : Program Int := do
  if x.symbolic then
    let isHere : Bool ← Program.inTree fun t here => (t.directoryOf here (Path.parent target)).toOption = some here
    if !Path.isAbsolute source ∧ !isHere then
      complain name (Quoting.ifNeeded target ++ lit ": can make relative symbolic links only in current directory")
      return 1
    if !isNew ∧ x.force then discard <| clearWay name { x with verbose := false } target
    match ← Program.onTree fun t here _ now => t.symlink here source target now with
    | .ok () => return 0
    | .error e =>
      complainOf name (lit "cannot create symbolic link " ++ Quoting.always target ++ lit " to " ++ Quoting.always source) e
      return 1
  else if x.hard then
    if !isNew ∧ x.force then discard <| clearWay name { x with verbose := false } target
    match ← Program.onTree fun t here _ _ => t.link here source target (x.following ≠ .none) with
    | .ok () => return 0
    | .error e =>
      complainOf name (lit "cannot create hard link " ++ Quoting.always target ++ lit " to " ++ Quoting.always source) e
      return 1
  else match n.content with
    | .link place =>
      match ← Program.onTree fun t here _ now => t.symlink here place target now with
      | .ok () =>
        if x.keepTime then
          Program.change fun p s =>
            match s.tree.lookup (s.task p).here target false with
            | .ok q => { s with tree := s.tree.setModified q n.modified }
            | .error _ => s
        return 0
      | .error e =>
        complainOf name (lit "cannot create symbolic link " ++ Quoting.always target) e
        return 1
    | .device _ =>
      if x.recursive then
        match ← Program.onTree fun t here _ _ =>
          match t.entryOf here target with
          | .ok { directory, name, node := none, .. } => .ok (t.add directory name n).1
          | .ok _ => .error .alreadyExists
          | .error e => .error e with
        | .ok () => return 0
        | .error e =>
          complainOf name (lit "cannot create special file " ++ Quoting.always target) e
          return 1
      else copyContent name x n source target isNew
    | _ => copyContent name x n source target isNew

/-- Decides about something that is at the target already: the status of the transfer if it ends there. -/
def judge (name : Text) (x : Transfer) (m : Memory) (r : Route) (n : Node) (source target : Text) (src dst : Place) (old : Node) :
    Program (Option Int) := do
  if !(← Program.inTree fun t here => isOther x t here source target src dst) then
    if x.hard ∧ src = dst then return some 0
    complain name (Quoting.always source ++ lit " and " ++ Quoting.always target ++ lit " are the same file")
    return some 1
  if x.replacing = .older ∧ !n.isDirectory ∧ n.modified ≤ old.modified then return some 0
  if x.move ∨ !n.isDirectory then
    if x.replacing = .skipped then return some 0
    if x.replacing = .refused then
      complain name (lit "not replacing " ++ Quoting.always target)
      return some 1
    if x.replacing = .asked then
      if !(← confirm name (lit "overwrite " ++ Quoting.always target)) then return some 1
  if !old.isDirectory then
    if n.isDirectory ∧ !(x.move ∧ x.backup ≠ .none) then
      complain name (lit "cannot overwrite non-directory " ++ Quoting.always target ++ lit " with directory " ++ Quoting.always source)
      return some 1
    if r.isTop ∧ m.several ∧ dst ∈ m.made then
      complain name (lit "will not overwrite just-created " ++ Quoting.always target ++ lit " with " ++ Quoting.always source)
      return some 1
  if !n.isDirectory ∧ old.isDirectory ∧ !(x.move ∧ x.backup ≠ .none) then
    complain name (lit "cannot overwrite directory " ++ Quoting.always target ++ lit " with non-directory")
    return some 1
  return none

/-- Moves a file to a path by giving it another name. -/
def moveTo (name : Text) (x : Transfer) (r : Route) (source target : Text) (kept : Option Text) : Program Int := do
  match ← Program.onTree fun t here _ _ => t.rename here source target with
  | .ok () =>
    if x.verbose then announce name source target kept (lit "renamed ")
    return 0
  | .error e =>
    if e = .invalidArgument then
      complain name (lit "cannot move " ++ Quoting.always r.top ++ lit " to a subdirectory of itself, " ++ Quoting.always r.topTarget)
    else if e = .isDirectory ∨ e = .notEmpty ∨ e = .alreadyExists then
      complainOf name (lit "cannot overwrite " ++ Quoting.always target) e
    else complainOf name (lit "cannot move " ++ Quoting.always source ++ lit " to " ++ Quoting.always target) e
    return 1

/-- The names in a directory in the order in which they were made. -/
def byAge (t : Tree) (p : Place) : List Text :=
  ((t.entries p).mergeSort fun a b => a.2 ≤ b.2).map (·.1)

/-- Puts a file that is no directory to the target, once it is clear what is there. -/
def placeFile (name : Text) (x : Transfer) (n : Node) (src : Place) (source target : Text) (m : Memory) (isNew : Bool)
    (kept : Option Text) : Program Transferred := do
  let shared : Bool := x.keepLinks ∧ 1 < (← Program.look fun _ s => linkCount s.tree src)
  match if shared then m.copies.lookup src else none with
  | some copy =>
    if x.verbose then announce name source target kept
    match ← Program.onTree fun t here _ _ => t.link here copy target with
    | .ok () => return (0, m)
    | .error e =>
      complainOf name (lit "cannot create hard link " ++ Quoting.always target ++ lit " to " ++ Quoting.always copy) e
      return (1, m)
  | none =>
    if x.verbose then announce name source target kept
    let status ← copyFile name x n source target isNew
    let p ← Program.inTree fun t here => (t.lookup here target).toOption
    return (status, { m with
      made := p.toList ++ m.made
      copies := if status = 0 ∧ shared then (src, target) :: m.copies else m.copies })

/-- Puts a directory to the target, with what a way to transfer makes of each file in it. -/
def placeDirectory (each : Route → (source target : Text) → Memory → Program Transferred) (name : Text) (x : Transfer)
    (r : Route) (n : Node) (src : Place) (source target : Text) (m : Memory) (isNew : Bool) (kept : Option Text) :
    Program Transferred := do
  let earlier := m.directories.lookup src
  match if r.isTop then none else earlier with
  | some copy =>
    if ← Program.inTree fun t here => sameEntry t here source copy then
      complain name (lit "cannot copy a directory, " ++ Quoting.always r.top ++ lit ", into itself, " ++ Quoting.always r.topTarget)
      return (1, { m with turned := true })
    complain name (lit "will not create hard link " ++ Quoting.always target ++ lit " to directory " ++ Quoting.always copy)
    return (1, m)
  | none =>
    if r.isTop ∧ earlier.isSome then
      complain name (lit "warning: source directory " ++ Quoting.always source ++ lit " specified more than once")
      return (0, m)
    let m := if r.isTop then { m with directories := (src, target) :: m.directories } else m
    let made ← if !isNew then pure (.ok ()) else
      Program.onTree fun t here mask now =>
        t.makeDirectory here target (Permission.without (n.mode &&& 0o777) mask) now
    match made with
    | .error e =>
      complainOf name (lit "cannot create directory " ++ Quoting.always target) e
      return (1, m)
    | .ok () =>
      if isNew ∧ x.verbose then announce name source target kept
      let names ← Program.inTree fun t _ => byAge t src
      let p ← Program.inTree fun t here => (t.lookup here target).toOption
      let m := if isNew ∧ !r.begun then { m with directories := (p.toList.map (·, target)) ++ m.directories } else m
      let inner := { r with isTop := false, begun := r.begun || isNew }
      let (status, m) ← names.foldlM (fun (status, m) c => do
        if m.turned then return (status, m)
        let (s, m) ← each inner (Path.join source c) (Path.join target c) m
        return (max status s, m)) ((0 : Int), m)
      if x.keepMode ∨ x.keepTime then keep { x with mode := none } n target false
      return (status, m)

/-- Puts a file or a directory to the target, once it is clear what is there. -/
def place (each : Route → (source target : Text) → Memory → Program Transferred) (name : Text) (x : Transfer) (r : Route)
    (n : Node) (src : Place) (source target : Text) (m : Memory) (isNew : Bool) (kept : Option Text) :
    Program Transferred := do
  if x.move then
    let status ← moveTo name x r source target kept
    return (status, { m with made := src :: m.made })
  else if n.isDirectory then placeDirectory each name x r n src source target m isNew kept
  else placeFile name x n src source target m isNew kept

/-- Transfers a file, or a directory with all below it that is at most so many levels deep. -/
def transfer (name : Text) (x : Transfer) : Nat → Route → (source target : Text) → Memory → Program Transferred
  | 0, _, _, _, m => return (1, m)
  | k + 1, r, source, target, m => do
    let follow : Bool := x.following = .all ∨ (x.following = .operands ∧ r.isTop)
    match ← Program.inTree fun t here => t.lookup here source follow with
    | .error e =>
      complainOf name (lit "cannot stat " ++ Quoting.always source) e
      return (1, m)
    | .ok src =>
      let some n ← Program.look fun _ s => s.tree.at? src | return (1, m)
      if n.isDirectory ∧ !x.recursive ∧ !x.move then
        complain name ((if x.mode.isSome then [] else lit "-r not specified; ") ++ lit "omitting directory " ++ Quoting.always source)
        return (1, m)
      if r.isTop ∧ m.several ∧ !n.isDirectory ∧ src ∈ m.sources ∧ x.backup = .none then
        complain name (lit "warning: source file " ++ Quoting.always source ++ lit " specified more than once")
        return (0, m)
      let m := if r.isTop then { m with sources := src :: m.sources } else m
      let isData : Bool := match n.content with
        | .file _ | .program _ => true
        | _ => !x.recursive && !n.isDirectory && !n.isLink
      let bare : Bool := !isData ∨ x.move ∨ x.symbolic ∨ x.hard ∨ x.backup ≠ .none ∨ x.removeFirst
      match ← Program.inTree fun t here => t.lookup here target (!bare) with
      | .error e =>
        if e ≠ .noEntry then
          complainOf name (lit "cannot stat " ++ Quoting.always target) e
          return (1, m)
        place (transfer name x k) name x r n src source target m true none
      | .ok dst =>
        let some old ← Program.look fun _ s => s.tree.at? dst | return (1, m)
        match ← judge name x m r n source target src dst old with
        | some status => return (status, m)
        | none =>
          if x.backup ≠ .none ∧ !(old.isDirectory ∧ !x.move) then
            let kept ← Program.inTree fun t here => x.backup.pathFor x.suffix t here target
            discard <| Program.onTree fun t here _ _ => t.rename here target kept
            place (transfer name x k) name x r n src source target m true (some kept)
          else if !old.isDirectory ∧ !x.move ∧ (x.removeFirst ∨ (x.following = .none ∧ !isData)) then
            if !(← clearWay name x target) then return (1, m)
            place (transfer name x k) name x r n src source target m true none
          else place (transfer name x k) name x r n src source target m false none

/-! ## Operands -/

/-- The name that an operand has in a directory. -/
def nameInTarget (operand : Text) : Text :=
  let b := Path.withoutSlashes (lastComponent operand)
  if b = ['.', '.'] then ['.'] else if b = ['/'] then [] else b

/-- Where the files are transferred to. -/
inductive Destination where
  | directory (d : Text)
  | path (p : Text)
  deriving Inhabited

/-- What the operands of a transfer mean. -/
def destination (name : Text) (given : List Given) (operands : List Text) : Program (List Text × Destination) := do
  let bare := hasLetter given 'T'
  let directoryOf (d : Text) : Program (Option Errno) := do
    match ← stat d with
    | .ok n => return if n.isDirectory then none else some .notDirectory
    | .error e => return some e
  match value? given ['t'], operands with
  | none, [] => misuse name (lit "missing file operand")
  | some _, [] => misuse name (lit "missing file operand")
  | none, [f] => misuse name (lit "missing destination file operand after " ++ Quoting.always f)
  | some d, _ =>
    if bare then
      complain name (lit "cannot combine --target-directory (-t) and --no-target-directory (-T)")
      Program.exit 1
    match ← directoryOf d with
    | none => return (operands, .directory d)
    | some e =>
      complainOf name (lit "target directory " ++ Quoting.always d) e
      Program.exit 1
  | none, _ =>
    let last := operands.getLastD []
    if bare then
      if 2 < operands.length then misuse name (lit "extra operand " ++ Quoting.always ((operands.drop 2).headD []))
      return (operands.dropLast, .path last)
    match ← directoryOf last with
    | none => return (operands.dropLast, .directory last)
    | some e =>
      if 2 < operands.length then
        complainOf name (lit "target " ++ Quoting.always last) e
        Program.exit 1
      return (operands.dropLast, .path last)

/-- Transfers operands to where they belong. -/
def transferAll (name : Text) (x : Transfer) (strip : Bool) (sources : List Text) (place : Destination) : Program Int := do
  let sources := if strip then sources.map Path.withoutSlashes else sources
  let (status, _) ← sources.foldlM (fun (status, m) source => do
    let target := match place with
      | .path p => p
      | .directory d => Path.join d (nameInTarget source)
    let (s, m) ← transfer name x maxDepth { top := source, topTarget := target } source target { m with turned := false }
    return (max status s, m)) ((0 : Int), ({ several := 1 < sources.length } : Memory))
  return status

/-- The words for the ways to replace files. -/
def updateChoices : List (List Text) := [[lit "all"], [lit "none"], [lit "older"]]

/-- How files are replaced if some options say so, and the option for not replacing any is meant so. -/
def replacingOf (name : Text) (given : List Given) (kept : Replacing) : Program Replacing := do
  let updates := given.filter fun g => g.key = ['u']
  let update ← match updates.getLast? with
    | none => pure .always
    | some g =>
      match g.value with
      | none => pure .older
      | some w => do
        match ← choose name (lit "--update") updateChoices w with
        | 0 => pure .always
        | 1 => pure .skipped
        | _ => pure Replacing.older
  match (lastOf? given [['f'], ['i'], ['n']]).map Given.key with
  | some ['i'] => return .asked
  | some ['n'] => return kept
  | _ => return update

/-- The options that copying and moving have in common. -/
def transferOptions : List Known :=
  Backup.options ++
  [flag 'f' (lit "force"), flag 'i' (lit "interactive"), flag 'n' (lit "no-clobber"), named (lit "no-copy"), { letter := some 'u', name := [], takes := .nothing },
   { letter := some 'u', name := lit "update", takes := .optional }, flag 'v' (lit "verbose"), valued 't' (lit "target-directory"),
   flag 'T' (lit "no-target-directory"), named (lit "strip-trailing-slashes"), flag 'Z', named (lit "context") .optional,
   named (lit "debug")]

/-- Moves files. -/
def mv : Utility := fun name args => do
  let (given, operands) ← options name transferOptions args
  let x : Transfer :=
    { move := true, recursive := true, following := .none, force := hasLetter given 'f'
      replacing := ← replacingOf name given .refused
      verbose := hasLetter given 'v'
      backup := ← Backup.ofGiven name given
      suffix := ← Backup.suffixOf given }
  let (sources, place) ← destination name given operands
  transferAll name x (has given (lit "strip-trailing-slashes")) sources place

/-- The attributes that copies may keep. -/
def keptAttributes : List (List Text) :=
  [[lit "mode"], [lit "timestamps"], [lit "ownership"], [lit "links"], [lit "context"], [lit "xattr"], [lit "all"]]

/-- A transfer that keeps some attributes, or does not. -/
def keeping (name option : Text) (value : Bool) (x : Transfer) (words : Text) : Program Transfer :=
  (Text.pieces (· == ',') words).foldlM (fun x w => do
    match ← choose name option keptAttributes w with
    | 0 => return { x with keepMode := value }
    | 1 => return { x with keepTime := value }
    | 3 => return { x with keepLinks := value }
    | 6 => return { x with keepMode := value, keepTime := value, keepLinks := value }
    | _ => return x) x

/-- Makes the directories on the way to a file below a directory, as they are on the way to the source. -/
def copyWay (name : Text) (x : Transfer) (d source : Text) : Program Int := do
  let names := Path.names (Path.parent source)
  let ways := ((List.range names.length).map fun i => ['/'].intercalate (names.take (i + 1))).filter (· ≠ ['.'])
  forEach (fun w => do
    let target := Path.join d w
    let origin := if Path.isAbsolute source then '/' :: w else w
    if (← stat target).toOption.isSome then
      if ← leadsToDirectory target then return 0
      complain name (Quoting.always target ++ lit " exists but is not a directory")
      return 1
    let mode := ((← stat origin).toOption.map Node.mode).getD 0o777
    match ← Program.onTree fun t here mask now => t.makeDirectory here target (Permission.without (mode &&& 0o777) mask) now with
    | .ok () =>
      if x.verbose then put name (origin ++ lit " -> " ++ target ++ ['\n'])
      return 0
    | .error e =>
      complainOf name (lit "cannot make directory " ++ Quoting.always target) e
      return 1) ways

/-- Copies files. -/
def cp : Utility := fun name args => do
  let (given, operands) ← options name (transferOptions ++
    [flag 'a' (lit "archive"), named (lit "attributes-only"), named (lit "copy-contents"), flag 'd', flag 'H',
     flag 'l' (lit "link"), flag 'L' (lit "dereference"), flag 'P' (lit "no-dereference"), flag 'p',
     named (lit "preserve") .optional, named (lit "no-preserve") .value, named (lit "parents"), flag 'r' (lit "recursive"),
     flag 'R', named (lit "reflink") .optional, named (lit "remove-destination"), named (lit "sparse") .value,
     flag 's' (lit "symbolic-link"), flag 'x' (lit "one-file-system"), named (lit "keep-directory-symlink")]) args
  if hasLetter given 'n' then
    complain name (lit "warning: behavior of -n is non-portable and may change in future; use --update=none instead")
  let x : Transfer :=
    { recursive := hasLetter given 'a' || hasLetter given 'r' || hasLetter given 'R'
      force := hasLetter given 'f'
      replacing := ← replacingOf name given .skipped
      verbose := hasLetter given 'v'
      symbolic := hasLetter given 's'
      hard := hasLetter given 'l'
      removeFirst := has given (lit "remove-destination")
      attributesOnly := has given (lit "attributes-only")
      backup := ← Backup.ofGiven name given
      suffix := ← Backup.suffixOf given }
  let following := match (lastOf? given [['a'], ['d'], ['H'], ['L'], ['P']]).map Given.key with
    | some ['L'] => .all
    | some ['H'] => .operands
    | some _ => .none
    | none => if x.recursive ∧ !x.hard then .none else .all
  let x ← given.foldlM (fun x g =>
    if g.key = ['a'] then pure { x with keepMode := true, keepTime := true, keepLinks := true }
    else if g.key = ['d'] then pure { x with keepLinks := true }
    else if g.key = ['p'] then pure { x with keepMode := true, keepTime := true }
    else if g.key = lit "preserve" then
      match g.value with
      | none => pure { x with keepMode := true, keepTime := true }
      | some w => keeping name (lit "--preserve") true x w
    else if g.key = lit "no-preserve" then keeping name (lit "--no-preserve") false x (g.value.getD [])
    else pure x) { x with following }
  if x.symbolic ∧ x.hard then misuse name (lit "cannot make both hard and symbolic links")
  if x.backup ≠ .none ∧ hasLetter given 'n' then misuse name (lit "options --backup and --no-clobber are mutually exclusive")
  let (sources, place) ← destination name given operands
  match has given (lit "parents"), place with
  | true, .path _ => misuse name (lit "with --parents, the destination must be a directory")
  | true, .directory d =>
    forEach (fun s => do
      let s := Path.withoutSlashes s
      if (← stat s).toOption.isNone then transferAll name x false [s] place
      else
        let status ← copyWay name x d s
        if status ≠ 0 then return status
        transferAll name x false [s] (.path (Path.join d (s.dropWhile (· == '/'))))) sources
  | false, .directory _ => transferAll name x (has given (lit "strip-trailing-slashes")) sources place
  | false, .path p =>
    let itself : Bool := sources = [p] ∧ x.force ∧ x.backup ≠ .none ∧ (← statLink p).toOption.any (!·.isDirectory)
    if itself then
      let kept ← Program.inTree fun t here => x.backup.pathFor x.suffix t here p
      transferAll name { x with backup := .none } false sources (.path kept)
    else transferAll name x false sources place

/-- Copies files and gives the copies permissions of their own, or makes directories. -/
def install : Utility := fun name args => do
  let (given, operands) ← options name (Backup.options ++
    [flag 'c', flag 'C' (lit "compare"), flag 'd' (lit "directory"), flag 'D', valued 'g' (lit "group"), valued 'm' (lit "mode"),
     valued 'o' (lit "owner"), flag 'p' (lit "preserve-timestamps"), flag 's' (lit "strip"), named (lit "strip-program") .value,
     valued 't' (lit "target-directory"), flag 'T' (lit "no-target-directory"), flag 'v' (lit "verbose"), flag 'Z']) args
  let verbose := hasLetter given 'v'
  let mode ← match value? given ['m'] with
    | none => pure 0o755
    | some w =>
      match Permission.Change.ofText? w with
      | some c => pure (c.apply false 0 0)
      | none => do
        complainWith name (lit "invalid mode ") w []
        Program.exit 1
  let makeWay (p : Text) : Program Int := do
    let names := Path.names p
    let root := if Path.isAbsolute p then ['/'] else []
    let ways := (List.range names.length).map fun i => root ++ ['/'].intercalate (names.take (i + 1))
    ways.foldlM (fun status d => do
      if status ≠ 0 ∨ (← leadsToDirectory d) then return status
      match ← Program.onTree fun t here mask now => t.makeDirectory here d (Permission.without 0o777 mask) now with
      | .ok () =>
        if verbose then put name (name ++ lit ": creating directory " ++ Quoting.always d ++ ['\n'])
        return 0
      | .error e =>
        let e := if e = .alreadyExists ∧ ways.getLast? ≠ some d then .notDirectory else e
        complainOf name (lit "cannot create directory " ++ (← quoted d)) e
        return 1) (0 : Int)
  if hasLetter given 'd' then
    if operands = [] then misuse name (lit "missing file operand")
    forEach (fun p => do
      let status ← makeWay p
      if status = 0 then discard <| Program.onTree fun t here _ _ => t.setMode here p mode
      return status) operands
  else
    let x : Transfer :=
      { force := true, removeFirst := true, verbose, mode := some mode, keepTime := hasLetter given 'p'
        backup := ← Backup.ofGiven name given
        suffix := ← Backup.suffixOf given }
    if hasLetter given 'D' then
      let way := match value? given ['t'] with
        | some d => d
        | none => Path.parent (operands.getLastD [])
      if 1 < operands.length ∨ (value? given ['t']).isSome then
        if (← makeWay way) ≠ 0 then return 1
    let (sources, place) ← destination name given operands
    transferAll name x false sources place

end Buildfile.Utility
