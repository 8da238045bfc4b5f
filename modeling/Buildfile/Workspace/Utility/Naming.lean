import Buildfile.Workspace.Canonical
import Buildfile.Workspace.Utility.Removing
/-!
# Names of files

Utilities that take paths apart, that find out where paths lead, and that make up names.
-/

namespace Buildfile.Utility

/-! ## Taking paths apart -/

/-- A text without a suffix that it does not consist of. -/
def withoutSuffix (suffix t : Text) : Text :=
  if suffix ≠ [] ∧ suffix.isSuffixOf t ∧ t ≠ suffix then t.take (t.length - suffix.length) else t

/-- The character at the end of every item of output. -/
def ending (zero : Bool) : Text := if zero then ['\x00'] else ['\n']

/-- Writes the last components of paths. -/
def basename : Utility := fun name args => do
  let (given, operands) ← options name
    [flag 'a' (lit "multiple"), valued 's' (lit "suffix"), flag 'z' (lit "zero")] args false
  let multiple := hasLetter given 'a' || hasLetter given 's'
  let last := ending (hasLetter given 'z')
  let shown (suffix p : Text) : Text :=
    let b := Path.base p
    (if b = ['/'] then b else withoutSuffix suffix b) ++ last
  match operands with
  | [] => missingOperand name
  | p :: rest =>
    if multiple then put name (operands.flatMap (shown ((value? given ['s']).getD [])))
    else match rest with
      | _ :: extra :: _ => extraOperand name extra
      | _ => put name (shown (rest.headD []) p)
    return 0

/-- Writes paths without their last components. -/
def dirname : Utility := fun name args => do
  let (given, operands) ← options name [flag 'z' (lit "zero")] args
  if operands = [] then missingOperand name
  put name (operands.flatMap fun p => Path.parent p ++ ending (hasLetter given 'z'))
  return 0

/-! ## Where paths lead -/

/-- Whether a path may stand for the present directory: it leads there from the root without dots. -/
def isLogicalHere (t : Tree) (here : Place) (path : Text) : Bool :=
  Path.isAbsolute path && (Path.components path).all (fun c => c ≠ ['.'] && c ≠ ['.', '.']) &&
    (t.lookup here path).toOption = some here

/-- Writes the path of the present directory. -/
def pwd : Utility := fun name args => do
  let (given, operands) ← options name [flag 'L' (lit "logical"), flag 'P' (lit "physical")] args
  let environment := (← Program.task).environment
  let logical : Bool := match (given.getLast?).map Given.key with
    | some k => k = ['L']
    | none => (environment.get? (lit "POSIXLY_CORRECT")).isSome
  if operands ≠ [] then complain name (lit "ignoring non-option arguments")
  let noted := (environment.get? (lit "PWD")).getD []
  let isHere : Bool ← Program.inTree fun t here => isLogicalHere t here noted
  if logical ∧ isHere then
    put name (noted ++ ['\n'])
    return 0
  match ← Program.inTree fun t here => t.pathTo? here with
  | some p =>
    put name (p ++ ['\n'])
    return 0
  | none =>
    complainWith name (lit "couldn't find directory entry in ") ['.', '.'] (lit " with matching i-node")
    return 1

/-- Writes what links hold, or the canonical paths of files. -/
def readlink : Utility := fun name args => do
  let (given, operands) ← options name
    [flag 'f' (lit "canonicalize"), flag 'e' (lit "canonicalize-existing"), flag 'm' (lit "canonicalize-missing"),
     flag 'n' (lit "no-newline"), flag 'q' (lit "quiet"), flag 's' (lit "silent"), flag 'v' (lit "verbose"),
     flag 'z' (lit "zero")] args
  if operands = [] then missingOperand name
  let verbose := ((lastOf? given [['q'], ['s'], ['v']]).map Given.key) = some ['v']
  if hasLetter given 'n' ∧ 1 < operands.length then complain name (lit "ignoring --no-newline with multiple arguments")
  let last := if hasLetter given 'n' ∧ operands.length = 1 then [] else ending (hasLetter given 'z')
  forEach (fun p => do
    let found ← Program.inTree fun t here =>
      match (lastOf? given [['f'], ['e'], ['m']]).map Given.key with
      | none => (t.nodeOf here p false).bind fun n =>
        match n.content with
        | .link target => .ok target
        | _ => .error .invalidArgument
      | some k =>
        Canonical.path? t here (if k = ['f'] then .last else if k = ['e'] then .nothing else .everything) p
    match found with
    | .ok r =>
      put name (r ++ last)
      return 0
    | .error e =>
      if verbose then complainOf name (Quoting.ifNeeded p) e
      return 1) operands

/-- Writes the canonical paths of files. -/
def realpath : Utility := fun name args => do
  let (given, operands) ← options name
    [flag 'e' (lit "canonicalize-existing"), flag 'm' (lit "canonicalize-missing"), flag 'L' (lit "logical"),
     flag 'P' (lit "physical"), flag 'q' (lit "quiet"), named (lit "relative-to") .value, named (lit "relative-base") .value,
     flag 's' (lit "strip"), named (lit "no-symlinks"), flag 'z' (lit "zero")] args
  if operands = [] then missingOperand name
  let lenient : Canonical.Leniency := match (lastOf? given [['e'], ['m']]).map Given.key with
    | some ['e'] => .nothing
    | some _ => .everything
    | none => .last
  let way := (lastOf? given [['L'], ['P'], ['s'], lit "no-symlinks"]).map Given.key
  let links : Bool := way ≠ some ['s'] ∧ way ≠ some (lit "no-symlinks")
  let canonical (t : Tree) (here : Place) (p : Text) : Except Errno (List Text) :=
    if way = some ['L'] then
      (Canonical.names? t here lenient p false).bind fun names => Canonical.names? t here lenient (Canonical.ofNames names)
    else Canonical.names? t here lenient p links
  let directoryNames (key : Text) : Program (Option (List Text)) := do
    match value? given key with
    | none => return none
    | some d =>
      match ← Program.inTree fun t here => canonical t here d with
      | .error e =>
        complainOf name (Quoting.ifNeeded d) e
        Program.exit 1
      | .ok names =>
        let isFile : Bool := (← stat (Canonical.ofNames names)).toOption.any (!·.isDirectory)
        if lenient = .nothing ∧ isFile then
          complainOf name (Quoting.ifNeeded d) .notDirectory
          Program.exit 1
        return some names
  let to? ← directoryNames (lit "relative-to")
  let base? ← directoryNames (lit "relative-base")
  let to? := to?.orElse fun _ => base?
  let isBased (names : List Text) : Bool := base?.all (·.isPrefixOf names)
  let to? := to?.filter isBased
  forEach (fun p => do
    match ← Program.inTree fun t here => canonical t here p with
    | .ok names =>
      let shown := match to? with
        | some base => if isBased names then Canonical.relative base names else Canonical.ofNames names
        | none => Canonical.ofNames names
      put name (shown ++ ending (hasLetter given 'z'))
      return 0
    | .error e =>
      if !hasLetter given 'q' then complainOf name (Quoting.ifNeeded p) e
      return 1) operands

/-! ## Made up names -/

/-- The characters that made up names consist of. -/
def nameChars : Text := lit "ABCDEFGHIJKLMNOPQRSTUVWXYZabcdefghijklmnopqrstuvwxyz0123456789"

/-- So many characters that depend on a number. -/
def madeUp : Nat → Nat → Text
  | 0, _ => []
  | k + 1, n => ((nameChars[n / 65536 % nameChars.length]?).getD 'x') :: madeUp k ((n * 1103515245 + 12345) % 4294967296)

/-- Makes a file or a directory with a name of its own. -/
def mktemp : Utility := fun name args => do
  let (given, operands) ← options name
    [flag 'd' (lit "directory"), flag 'u' (lit "dry-run"), flag 'q' (lit "quiet"), valued 'p', named (lit "tmpdir") .optional,
     flag 't', named (lit "suffix") .value] args
  if 1 < operands.length then misuse name (lit "too many templates")
  let environment := (← Program.task).environment
  let standard := (environment.get? (lit "TMPDIR")).filter (· ≠ []) |>.getD (lit "/tmp")
  let template := operands.headD (lit "tmp.XXXXXXXXXX")
  let wanted := lastOf? given [['p'], lit "tmpdir"]
  let directory := if hasLetter given 't' then standard else (wanted.bind (·.value)).getD standard
  let inDirectory : Bool := operands = [] ∨ wanted.isSome ∨ hasLetter given 't'
  let quiet (p : Program Unit) : Program Unit := if hasLetter given 'q' then pure () else p
  let suffix ← match value? given (lit "suffix") with
    | some s =>
      if template.getLast? ≠ some 'X' then do
        complainWith name (lit "with --suffix, template ") template (lit " must end in X")
        Program.exit 1
      pure s
    | none => pure (template.reverse.takeWhile (· ≠ 'X')).reverse
  let stem := if (value? given (lit "suffix")).isSome then template else template.take (template.length - suffix.length)
  let marks := (stem.reverse.takeWhile (· = 'X')).length
  if '/' ∈ suffix then
    complainWith name (lit "invalid suffix ") suffix (lit ", contains directory separator")
    Program.exit 1
  if marks < 3 then
    complainWith name (lit "too few X's in template ") template []
    Program.exit 1
  if hasLetter given 't' ∧ '/' ∈ template then
    complainWith name (lit "invalid template, ") template (lit ", contains directory separator")
    Program.exit 1
  if inDirectory ∧ Path.isAbsolute template then
    complainWith name (lit "invalid template, ") template (lit "; with --tmpdir, it may not be absolute")
    Program.exit 1
  let made (n : Nat) : Text :=
    let p := stem.take (stem.length - marks) ++ madeUp marks n ++ suffix
    if inDirectory then Path.join directory p else p
  let path := made (← Program.look fun p s => s.clock + 7919 * p)
  if !hasLetter given 'u' then
    let kind := if hasLetter given 'd' then lit "directory" else lit "file"
    let result ← if hasLetter given 'd' then
        Program.onTree fun t here _ now => t.makeDirectory here path 0o700 now
      else Program.onTree fun t here _ now => (t.openFile here path false 0o600 now).map (·.1)
    match result with
    | .ok () => pure ()
    | .error e => do
      let shown ← quoted (if inDirectory then Path.join directory template else template)
      quiet (complainOf name (lit "failed to create " ++ kind ++ lit " via template " ++ shown) e)
      Program.exit 1
  put name (path ++ ['\n'])
  return 0

end Buildfile.Utility
