import Buildfile.Workspace.Calendar
import Buildfile.Workspace.FileTest
import Buildfile.Workspace.Permission
import Buildfile.Workspace.Utility.Choice
/-!
# Making files and directories

Utilities that make files and directories, and that change the permissions and the times of what is
there already.
-/

namespace Buildfile.Utility

/-! ## Files -/

/-- The time that a utility is asked to give to files: that of another file, a written one, or now. -/
def wantedTime (name : Text) (given : List Given) : Program Int := do
  let now ← Program.look fun _ s => s.now
  match value? given ['r'] with
  | some f =>
    match ← Program.inTree fun t here => t.nodeOf here f with
    | .error e => do
      complainOf name (lit "failed to get attributes of " ++ Quoting.always f) e
      Program.exit 1
    | .ok n =>
      match value? given ['d'] with
      | none => return n.modified
      | some d => ((Calendar.read? n.modified d).map pure).getD (invalid d)
  | none =>
    match value? given ['t'], value? given ['d'] with
    | some t, _ => ((Calendar.readStamp? now t).map pure).getD (invalid t)
    | none, some d => ((Calendar.read? now d).map pure).getD (invalid d)
    | none, none => return now
where
  /-- Complains of a date and ends. -/
  invalid (t : Text) : Program Int := do
    complainWith name (lit "invalid date format ") t []
    Program.exit 1

/-- Makes a file if it is missing, unless it must not be made, and gives it a time. -/
def touchOne (name : Text) (noCreate noFollow changes : Bool) (time : Int) (path : Text) : Program Int := do
  let opened ← if noCreate ∨ noFollow then pure none else
    match ← Program.openFile path (.write false) with
    | .ok fd => do
      Program.close fd
      pure none
    | .error e => pure (if e = .isDirectory then none else some e)
  match ← Program.inTree fun t here => t.lookup here path (!noFollow) with
  | .ok p =>
    if changes then Program.change fun _ s => { s with tree := s.tree.setModified p time }
    return 0
  | .error e =>
    match opened with
    | some e => do
      complainOf name (lit "cannot touch " ++ Quoting.always path) e
      return 1
    | none =>
      if noCreate ∧ e = .noEntry then return 0
      else
        complainOf name (lit "setting times of " ++ Quoting.always path) e
        return 1

/-- The words for the times of a file. -/
def timeWords : List (List Text) := [[lit "atime", lit "access", lit "use"], [lit "mtime", lit "modify"]]

/-- Makes files that are missing and gives files a time. -/
def touch : Utility := fun name args => do
  let (given, files) ← options name
    [flag 'a', flag 'c' (lit "no-create"), valued 'd' (lit "date"), flag 'f', flag 'h' (lit "no-dereference"), flag 'm',
     valued 'r' (lit "reference"), valued 't', named (lit "time") .value] args
  let kinds ← (given.filter (·.key = lit "time")).mapM fun g => choose name (lit "--time") timeWords (g.value.getD [])
  let stamp ← match value? given ['t'] with
    | none => pure none
    | some _ => pure (some (← wantedTime name (given.filter (·.key = ['t']))))
  if stamp.isSome ∧ ((value? given ['d']).isSome ∨ (value? given ['r']).isSome) then
    misuse name (lit "cannot specify times from more than one source")
  let time ← wantedTime name given
  let changes : Bool := ¬ (hasLetter given 'a' ∨ kinds.getLast? = some 0) ∨ hasLetter given 'm'
  if files = [] then misuse name (lit "missing file operand")
  forEach (touchOne name (hasLetter given 'c') (hasLetter given 'h') changes time) files

/-! ## Directories -/

/-- The paths of the directories on the way to a path and of that path itself, the outermost first. -/
def pathsOnWay (path : Text) : List Text :=
  let bare := Path.withoutSlashes path
  let ends := (List.range bare.length).filter fun i => 0 < i ∧ bare[i]? = some '/' ∧ bare[i - 1]? ≠ some '/'
  ends.map bare.take ++ [path]

/-- Makes the directories on the way to a path, and that path itself with its own permissions. -/
def makeWay (name : Text) (verbose : Bool) (mode : Option Nat) : List Text → Program Int
  | [] => return 0
  | p :: rest => do
    match ← Program.inTree fun t here => t.nodeOf here p with
    | .ok n =>
      if n.isDirectory then makeWay name verbose mode rest
      else
        complainOf name (lit "cannot create directory " ++ (← quoted p)) (if rest = [] then .alreadyExists else .notDirectory)
        return 1
    | .error _ =>
      match ← Program.onTree fun t here mask now =>
        t.makeDirectory here p (Permission.without ((if rest = [] then mode else none).getD 0o777)
          (if rest = [] ∧ mode.isSome then 0 else mask)) now with
      | .ok () =>
        if verbose then put name (name ++ lit ": created directory " ++ Quoting.always p ++ ['\n'])
        makeWay name verbose mode rest
      | .error e =>
        complainOf name (lit "cannot create directory " ++ (← quoted p)) e
        return 1

/-- Makes directories, with those on the way if asked to. -/
def mkdir : Utility := fun name args => do
  let (given, paths) ← options name
    [valued 'm' (lit "mode"), flag 'p' (lit "parents"), flag 'v' (lit "verbose"), flag 'Z', named (lit "context") .optional] args
  if paths = [] then missingOperand name
  let mask := (← Program.task).mask
  let mode ← match value? given ['m'] with
    | none => pure none
    | some m =>
      match Permission.Change.ofText? m with
      | some c => pure (some (c.apply true mask 0o777))
      | none => do
        complainWith name (lit "invalid mode ") m []
        Program.exit 1
  let verbose := hasLetter given 'v'
  forEach (fun p => do
    if hasLetter given 'p' then makeWay name verbose mode (pathsOnWay p)
    else
      match ← Program.onTree fun t here mask now =>
        t.makeDirectory here p (mode.getD (Permission.without 0o777 mask)) now with
      | .ok () =>
        if verbose then put name (name ++ lit ": created directory " ++ Quoting.always p ++ ['\n'])
        return 0
      | .error e =>
        complainOf name (lit "cannot create directory " ++ (← quoted p)) e
        return 1) paths

/-! ## Permissions -/

/-- Whether an argument is a change of permissions that starts with a dash. -/
def isDashedMode (a : Text) : Bool :=
  match a with
  | '-' :: c :: cs => (c :: cs).all fun c => c ∈ (lit "rwxXstugo,+-=") && (c ∈ (lit "rwxXstugo"))
  | _ => false

/-- Changes the permissions of a file, and of all below it if asked to. -/
def chmodOne (name : Text) (recursive verbose changesOnly quiet : Bool) (mask : Nat) (change : Permission.Change) :
    Nat → Text → Program Int
  | 0, _ => return 1
  | k + 1, path => do
    match ← Program.inTree fun t here => t.nodeOf here path with
    | .error e =>
      if !quiet then
        match ← Program.inTree fun t here => (t.nodeOf here path false).toOption.any Node.isLink with
        | true => complain name (lit "cannot operate on dangling symlink " ++ Quoting.always path)
        | false => complainOf name (lit "cannot access " ++ Quoting.always path) e
      if verbose then
        put name (Quoting.always path ++ lit " could not be accessed\n")
      return 1
    | .ok n =>
      let old := n.mode
      let new := change.apply n.isDirectory mask old
      discard <| Program.onTree fun t here _ _ => t.setMode here path new
      let shown (m : Nat) : Text := Permission.digits m ++ lit " (" ++ Permission.letters m ++ [')']
      if old ≠ new ∧ (verbose ∨ changesOnly) then
        put name (lit "mode of " ++ Quoting.always path ++ lit " changed from " ++ shown old ++ lit " to " ++ shown new ++ ['\n'])
      else if verbose then
        put name (lit "mode of " ++ Quoting.always path ++ lit " retained as " ++ shown new ++ ['\n'])
      if recursive ∧ n.isDirectory then
        let children ← Program.inTree fun t here => ((t.lookup here path).toOption.map t.children).getD []
        let below := children.map (Path.join path)
        let links ← below.filterM fun p => Program.inTree fun t here => (t.nodeOf here p false).toOption.any Node.isLink
        forEach (chmodOne name recursive verbose changesOnly quiet mask change k) (below.filter (· ∉ links))
      else return 0

/-- Changes the permissions of files. -/
def chmod : Utility := fun name args => do
  let dashed := args.filter isDashedMode
  let args := args.filter (!isDashedMode ·)
  let (given, operands) ← options name
    [flag 'R' (lit "recursive"), flag 'v' (lit "verbose"), flag 'c' (lit "changes"), flag 'f' (lit "silent"),
     named (lit "reference") .value, named (lit "preserve-root"), named (lit "no-preserve-root")] args
  let reference := value? given (lit "reference")
  let (mode, files) := if reference.isSome then ([], operands)
    else if dashed ≠ [] then ([','].intercalate dashed, operands) else (operands.headD [], operands.drop 1)
  if dashed = [] ∧ operands = [] then missingOperand name
  if files = [] then misuseWith name (lit "missing operand after ") (operands.getLastD (dashed.getLastD [])) []
  let mask := (← Program.task).mask
  let change ← match reference with
    | some r => do
      match ← Program.inTree fun t here => t.nodeOf here r with
      | .ok n => pure (Permission.ofOctal 4 n.mode)
      | .error e => do
        complainOf name (lit "failed to get attributes of " ++ Quoting.always r) e
        Program.exit 1
    | none =>
      match Permission.Change.ofText? mode with
      | some c => pure c
      | none => misuseWith name (lit "invalid mode: ") mode []
  forEach (chmodOne name (hasLetter given 'R') (hasLetter given 'v') (hasLetter given 'c') (hasLetter given 'f') mask
    change 1000) files

/-! ## Sizes -/

/-- Gives files a size. -/
def truncate : Utility := fun name args => do
  let (given, files) ← options name
    [valued 's' (lit "size"), flag 'c' (lit "no-create"), flag 'o' (lit "io-blocks"), valued 'r' (lit "reference")] args
  let reference ← match value? given ['r'] with
    | none => pure 0
    | some r => do
      match ← Program.inTree fun t here => t.nodeOf here r with
      | .ok n => pure n.bytes.length
      | .error e => do
        complainOf name (lit "cannot stat " ++ Quoting.always r) e
        Program.exit 1
  if (value? given ['s']).isNone ∧ (value? given ['r']).isNone then
    let q1 ← quoted (lit "--size")
    misuseWith name (lit "you must specify either " ++ q1 ++ lit " or ") (lit "--reference") []
  let wanted := (value? given ['s']).getD []
  let sign := wanted.headD ' '
  let signed := sign ∈ ['+', '-', '<', '>', '/', '%']
  let number := if signed then wanted.drop 1 else wanted
  match if wanted = [] then some 0 else size? number with
  | none => do
    complain name (lit "Invalid number: " ++ Quoting.word false wanted)
    return 1
  | some n =>
    if files = [] then misuse name (lit "missing file operand")
    forEach (fun f => do
      let there ← Program.inTree fun t here => (t.lookup here f).toOption.isSome
      if hasLetter given 'c' ∧ !there then return 0
      match ← Program.openFile f (.write false) with
      | .error e => do
        complainOf name (lit "cannot open " ++ Quoting.always f ++ lit " for writing") e
        return 1
      | .ok fd => do
        Program.close fd
        Program.change fun p s =>
          match s.tree.lookup (s.task p).here f with
          | .error _ => s
          | .ok place =>
            let old := ((s.tree.at? place).map Node.bytes).getD []
            let base := if (value? given ['r']).isSome then reference else old.length
            let size :=
              if !signed then (if wanted = [] then reference else n)
              else if sign = '+' then base + n
              else if sign = '-' then base - n
              else if sign = '<' then min base n
              else if sign = '>' then max base n
              else if n = 0 then base
              else if sign = '/' then base / n * n
              else (base + n - 1) / n * n
            let new := old.take size ++ List.replicate (size - old.length) '\x00'
            { s with tree := s.tree.change place fun node =>
                match node.content with
                | .file _ => { node with content := .file new, modified := s.now }
                | _ => node }
        return 0) files

end Buildfile.Utility
