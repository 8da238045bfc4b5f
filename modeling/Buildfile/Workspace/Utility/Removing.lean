import Buildfile.Workspace.Utility.Choice
/-!
# Removing files and directories

Utilities that take names out of directories. A directory is removed only when it is empty, or with all that
is below it if that is asked for.
-/

namespace Buildfile.Utility

/-- The node at a path that is not followed. -/
def statLink (path : Text) : Program (Except Errno Node) := Program.inTree fun t here => t.nodeOf here path false

/-- The node that a path leads to. -/
def stat (path : Text) : Program (Except Errno Node) := Program.inTree fun t here => t.nodeOf here path

/-- Whether a path leads to a directory. -/
def leadsToDirectory (path : Text) : Program Bool := return (← stat path).toOption.any Node.isDirectory

/-- What a node is called in questions. -/
def kindOf (n : Node) : Text :=
  match n.content with
  | .directory _ _ => lit "directory"
  | .file [] => lit "regular empty file"
  | .file _ | .program _ => lit "regular file"
  | .link _ => lit "symbolic link"
  | .device _ => lit "character special file"

/-- The last component of a path with the slashes after it. -/
def lastComponent (path : Text) : Text :=
  let bare := Path.withoutSlashes path
  path.drop (bare.length - (bare.reverse.takeWhile (· != '/')).length)

/-- Whether a path ends with `.` or `..`. -/
def endsWithDots (path : Text) : Bool :=
  match Path.base (lastComponent path) with
  | ['.'] | ['.', '.'] => true
  | _ => false

/-! ## Removal -/

/-- How files are removed. -/
structure Removal where
  force : Bool := false
  /-- Whether every removal is asked for. -/
  interactive : Bool := false
  recursive : Bool := false
  /-- Whether empty directories are removed. -/
  directories : Bool := false
  verbose : Bool := false
  keepRoot : Bool := true
  deriving Inhabited

/-- Whether a refusal says that there is nothing to remove. -/
def isAbsence (e : Errno) : Bool := e = .noEntry || e = .notDirectory || e = .invalidArgument

/-- Removes what is at a path by a change of the tree. -/
def removeBy (name : Text) (r : Removal) (what path : Text) (f : Tree → Place → Except Errno Tree) : Program Int := do
  match ← Program.onTree fun t here _ _ => f t here with
  | .ok () =>
    if r.verbose then put name (lit "removed " ++ what ++ Quoting.always path ++ ['\n'])
    return 0
  | .error e =>
    if r.force ∧ isAbsence e then return 0
    complainOf name (lit "cannot remove " ++ Quoting.always path) e
    return 1

/-- Removes what is at a path, a directory with all below it, at most so many levels deep. -/
def removeAt (name : Text) (r : Removal) : Nat → (top : Bool) → Text → Program Int
  | 0, _, _ => return 1
  | k + 1, top, path => do
    match ← statLink path with
    | .error e =>
      if r.force ∧ isAbsence e then return 0
      complainOf name (lit "cannot remove " ++ Quoting.always path) e
      return 1
    | .ok n =>
      if !n.isDirectory then
        if r.interactive then
          if !(← confirm name (lit "remove " ++ kindOf n ++ ' ' :: Quoting.always path)) then return 0
        removeBy name r [] path fun t here => t.unlink here path
      else
        let names ← Program.inTree fun t here => ((t.lookup here path false).toOption.map t.children).getD []
        if !r.recursive ∧ !(r.directories ∧ names = []) then
          complainOf name (lit "cannot remove " ++ Quoting.always path) (if r.directories then .notEmpty else .isDirectory)
          return 1
        if top ∧ endsWithDots path then
          complain name (lit "refusing to remove " ++ Quoting.always ['.'] ++ lit " or " ++ Quoting.always ['.', '.'] ++
            lit " directory: skipping " ++ Quoting.always path)
          return 1
        let isRoot : Bool ← Program.inTree fun t here => (t.lookup here path).toOption = some Tree.root
        if top ∧ r.keepRoot ∧ isRoot then
          complain name (lit "it is dangerous to operate recursively on " ++ Quoting.always path ++
            (if path = ['/'] then [] else lit " (same as " ++ Quoting.always ['/'] ++ [')']))
          complain name (lit "use --no-preserve-root to override this failsafe")
          return 1
        if r.interactive ∧ names ≠ [] then
          if !(← confirm name (lit "descend into directory " ++ Quoting.always path)) then return 0
        let status ← forEach (fun c => removeAt name r k false (Path.join path c)) names
        if status ≠ 0 then return status
        if r.interactive then
          if !(← confirm name (lit "remove directory " ++ Quoting.always path)) then return 0
        let left ← Program.inTree fun t here => ((t.lookup here path false).toOption.map t.children).getD []
        if r.interactive ∧ left ≠ [] then
          complainOf name (lit "cannot remove " ++ Quoting.always path) .notEmpty
          return 1
        removeBy name r (lit "directory ") path fun t here => t.removeDirectory here path

/-- The deepest nesting of directories that utilities go down to. -/
def maxDepth : Nat := 2048

/-- When removals are asked for. -/
def askChoices : List (List Text) :=
  [[lit "never", lit "no", lit "none"], [lit "once"], [lit "always", lit "yes"]]

/-- Removes files. -/
def rm : Utility := fun name args => do
  let known :=
    [flag 'f' (lit "force"), flag 'i', flag 'I', named (lit "interactive") .optional, named (lit "one-file-system"),
     named (lit "no-preserve-root"), named (lit "preserve-root") .optional, flag 'r' (lit "recursive"), flag 'R',
     flag 'd' (lit "dir"), flag 'v' (lit "verbose")]
  let (given, files) ← match parse (known ++ commonOptions) args with
    | .ok _ => options name known args
    | .error f => do
      complain name f.message
      for a in args do
        if a.head? = some '-' ∧ a.length > 1 then
          if (← statLink a).toOption.isSome then
            tell (lit "Try '" ++ name ++ lit " ./" ++ Quoting.ifNeeded a ++ lit "' to remove the file " ++
              Quoting.always a ++ ['.'])
      hint name
      Program.exit 1
  let whens ← (given.filter (·.key = lit "interactive")).mapM fun g =>
    match g.value with
    | none => pure 2
    | some w => choose name (lit "--interactive") askChoices w
  for g in given do
    if let some v := g.value then
      if g.key = lit "preserve-root" ∧ v ≠ lit "all" then
        complain name (lit "unrecognized --preserve-root argument: " ++ Quoting.always v)
        Program.exit 1
  let asks := given.filter fun g => g.key ∈ [['f'], ['i'], ['I'], lit "interactive"]
  let last := (asks.getLast?.map Given.key).getD []
  let mode := if last = ['i'] then 2 else if last = ['I'] then 1 else if last = lit "interactive" then whens.getLastD 2 else 0
  let r : Removal :=
    { force := last = ['f']
      interactive := mode = 2
      recursive := hasLetter given 'r' || hasLetter given 'R'
      directories := hasLetter given 'd'
      verbose := hasLetter given 'v'
      keepRoot := ((given.filter fun g => g.key ∈ [lit "no-preserve-root", lit "preserve-root"]).getLast?).all
        (·.key = lit "preserve-root") }
  if files = [] then
    if r.force then return 0
    missingOperand name
  if mode = 1 ∧ (3 < files.length ∨ r.recursive) then
    let many := if files.length = 1 then lit " argument" else lit " arguments"
    if !(← confirm name (lit "remove " ++ Text.ofNat files.length ++ many ++ if r.recursive then lit " recursively" else [])) then
      return 0
  forEach (removeAt name r maxDepth true) files

/-! ## Directories -/

/-- Whether a failure to remove a directory only says that it is not empty. -/
def isFull (e : Errno) : Bool := e = .notEmpty || e = .alreadyExists

/-- Removes the directories on the way to a path, the innermost first, at most so many. -/
def removeParents (name : Text) (verbose ignore : Bool) : Nat → Text → Program Int
  | 0, _ => return 0
  | k + 1, path => do
    if '/' ∉ path then return 0
    let up := match ((path.reverse.dropWhile (· != '/')).dropWhile (· == '/')).reverse with
      | [] => ['/']
      | p => p
    if verbose then put name (name ++ lit ": removing directory, " ++ Quoting.always up ++ ['\n'])
    match ← Program.onTree fun t here _ _ => t.removeDirectory here up with
    | .ok () => removeParents name verbose ignore k up
    | .error e =>
      if ignore ∧ isFull e then return 0
      complainOf name (lit "failed to remove directory " ++ Quoting.always up) e
      return 1

/-- Removes empty directories. -/
def rmdir : Utility := fun name args => do
  let (given, paths) ← options name
    [named (lit "ignore-fail-on-non-empty"), named (lit "path"), flag 'p' (lit "parents"), flag 'v' (lit "verbose")] args
  if paths = [] then missingOperand name
  let verbose := hasLetter given 'v'
  let ignore := has given (lit "ignore-fail-on-non-empty")
  forEach (fun p => do
    if verbose then put name (name ++ lit ": removing directory, " ++ Quoting.always p ++ ['\n'])
    match ← Program.onTree fun t here _ _ => t.removeDirectory here p with
    | .ok () =>
      if hasLetter given 'p' ∨ has given (lit "path") then
        removeParents name verbose ignore p.length (Path.withoutSlashes p)
      else return 0
    | .error e =>
      if ignore ∧ isFull e then return 0
      let bare := Path.withoutSlashes p
      let isLink := (← statLink bare).toOption.any Node.isLink
      let follows : Bool := match ← stat bare with
        | .ok n => n.isDirectory
        | .error e => e ≠ .notDirectory
      if e = .notDirectory ∧ bare ≠ p ∧ isLink ∧ follows then
        complain name (lit "failed to remove " ++ Quoting.always p ++ lit ": Symbolic link not followed")
      else complainOf name (lit "failed to remove " ++ Quoting.always p) e
      return 1) paths

/-! ## Single names -/

/-- Removes one name of a file. -/
def unlink : Utility := fun name args => do
  let (_, operands) ← options name [] args
  match operands with
  | [] => missingOperand name
  | [path] =>
    match ← Program.onTree fun t here _ _ => t.unlink here path with
    | .ok () => return 0
    | .error e =>
      complainOf name (lit "cannot unlink " ++ Quoting.always path) e
      return 1
  | _ :: b :: _ => extraOperand name b

end Buildfile.Utility
