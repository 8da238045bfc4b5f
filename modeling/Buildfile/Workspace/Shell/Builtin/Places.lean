import Buildfile.Workspace.Permission
import Buildfile.Workspace.Shell.Builtin.Settings
/-!
# Builtins about where the shell works

The shell remembers how it came to the directory that it works in: `cd` goes up from a link to where the link is. The
permissions that new files do not get belong to the shell as well.
-/

namespace Buildfile.Shell

/-! ## Directories -/

/-- The path of the directory that the shell works in, if there is still one; otherwise there is a complaint. -/
def physicalHere : Act Text := do
  match ← (Program.inTree fun t here => t.pathTo? here : Program (Option Text)) with
  | some p => return p
  | none =>
    warn (lit "getcwd() failed: " ++ Errno.message .noEntry)
    return []

/-- Whether the options of `cd` and `pwd` ask for the path without links. -/
def isPhysical (given : List (Char × Text)) : Bool := given.getLast?.any (·.1 = 'P')

/-- Notes that the shell works in a directory, under a path if one is known. -/
def noteHere (path : Option Text) : Act Unit := do
  let here ← match path with
    | some p => pure p
    | none => physicalHere
  modify fun s => { s with here }
  exportVariable (lit "PWD") here

/-- The components of a path put after others, of which `..` takes one away; all in reverse. -/
def walked (names : List Text) (path : Text) : List Text :=
  (Path.names path).foldl (fun ns c => if c = ['.', '.'] then ns.drop 1 else if c = ['.'] then ns else c :: ns) names

/-- The path that a path stands for, from a directory. -/
def logicalPath (here path : Text) : Text :=
  let absolute := Path.isAbsolute path
  let root (p : Text) : Text := if p.take 2 = ['/', '/'] ∧ p[2]? ≠ some '/' then ['/', '/'] else ['/']
  let names := walked (if absolute then [] else (Path.names here).reverse) path
  (if absolute then root path else if here.take 2 = ['/', '/'] then ['/', '/'] else ['/']) ++ ['/'].intercalate names.reverse

/-- Goes to the directory at a path; tells whether that was possible. -/
def goTo (physical : Bool) (path : Text) : Act Bool := do
  let s ← get
  let named := if physical ∨ (s.here = [] ∧ !Path.isAbsolute path) then none else some (logicalPath s.here path)
  let gone ← (Program.attempt fun p s =>
    (s.tree.directoryOf (s.task p).here (named.getD path)).map fun here =>
      (s.changeTask p fun t => { t with here }, ()) : Program (Except Errno Unit))
  if !gone.isOk then return false
  exportVariable (lit "OLDPWD") s.here
  noteHere named
  modify fun s => { s with found := ⟨s.found.entries.map fun e => (e.1, e.2.1, true)⟩ }
  return true

/-- Whether a path is looked for in no other directory than the one that the shell works in. -/
def isFixed (path : Text) : Bool :=
  match path with
  | '/' :: _ => true
  | _ =>
    let first := path.takeWhile (· != '/')
    first = ['.'] || first = ['.', '.']

/-- The first directory of that name in some others. -/
def inDirectories (t : Tree) (here : Place) (path : Text) : List Text → Option (Text × Bool)
  | [] => none
  | d :: ds =>
    let p := if d = [] then path else d ++ '/' :: path
    if (t.directoryOf here p).isOk then some (p, d ≠ []) else inDirectories t here path ds

/-- Goes to another directory: `HOME` if none is given, and the one before for a dash. -/
def cd : Builtin := fun args => do
  let (given, args) ← optionsOf ['L', 'P'] args
  let s ← get
  let back := args.head? = some ['-']
  let path := if back then (s.lookUp? (lit "OLDPWD")).getD [] else args.headD ((s.lookUp? (lit "HOME")).getD [])
  let (target, isFound) ← if isFixed path then pure (path, false)
    else
      let path := if path = [] then ['.'] else path
      match s.lookUp? (lit "CDPATH") with
      | none => pure (path, false)
      | some directories =>
        let found ← (Program.inTree fun t here => inDirectories t here path (Text.pieces (· == ':') directories) :
          Program (Option (Text × Bool)))
        pure (found.getD (path, false))
  if !(← goTo (isPhysical given) target) then abort (lit "can't cd to " ++ if path = [] then ['.'] else path)
  if back ∨ isFound then sayLine (← get).here
  return 0

/-- Shows the directory that the shell works in. -/
def pwd : Builtin := fun args => do
  let (given, _) ← optionsOf ['L', 'P'] args
  let here ← if isPhysical given then physicalHere else see Shell.here
  sayLine here
  return 0

/-! ## Permissions -/

/-- The bits of classes of users that letters name, for one permission. -/
def classBits (letters : Text) : Nat :=
  letters.foldl (fun n c => n ||| if c = 'u' then 0o100 else if c = 'g' then 0o010 else if c = 'o' then 0o001 else 0o111) 0

/-- The permissions that letters stand for, for one class of users. -/
def permissionBits (mode : Nat) (letters : Text) : Nat :=
  let one : Char → Nat
    | 'r' => 4
    | 'w' => 2
    | 'x' => 1
    | 'X' => if mode &&& 0o111 ≠ 0 then 1 else 0
    | 'u' => mode >>> 6
    | 'g' => mode >>> 3
    | 'o' => mode
    | _ => 0
  (letters.foldl (fun n c => n ||| one c) 0) &&& 7

/-- Permissions after changes that are written one after another, at most so many of them; `classes` are those whose
permissions change, if that has been said. -/
def changedMode : Nat → (classes : Option Nat) → (mode : Nat) → Text → Option Nat
  | 0, _, _, _ => none
  | _ + 1, none, mode, [] => some mode
  | n + 1, classes, mode, t =>
    let who := if classes.isSome then [] else t.takeWhile fun c => c ∈ ['u', 'g', 'o', 'a']
    let bits := classes.getD (if who = [] then 0o111 else classBits who)
    match t.drop who.length with
    | op :: rest =>
      let letters := rest.takeWhile fun c => c ∈ ['r', 'w', 'x', 'X', 's', 'u', 'g', 'o']
      let value := permissionBits mode letters * bits
      let mode := if op = '-' then mode &&& (0o777 ^^^ value) else if op = '+' then mode ||| value
        else (mode &&& (0o777 ^^^ (7 * bits))) ||| value
      if op ∉ ['=', '+', '-'] then none
      else match rest.drop letters.length with
        | [] => some mode
        | ',' :: rest => changedMode n none mode rest
        | rest => changedMode n (some bits) mode rest
    | [] => none

/-- Shows or sets the permissions that new files do not get. -/
def umask : Builtin := fun args => do
  let (given, args) ← optionsOf ['S'] args
  let mask := (← (Program.task : Program Task)).mask
  let set (mask : Nat) : Act Int := do
    (Program.change fun p s => s.changeTask p fun t => { t with mask } : Program Unit)
    return 0
  match args with
  | [] =>
    let allowed (who : Char) (shift : Nat) : Text :=
      let bits := 7 ^^^ ((mask >>> shift) &&& 7)
      [who, '='] ++ (if bits &&& 4 ≠ 0 then ['r'] else []) ++ (if bits &&& 2 ≠ 0 then ['w'] else []) ++
        (if bits &&& 1 ≠ 0 then ['x'] else [])
    if given.isEmpty then
      let ds := Nat.toDigits 8 mask
      sayLine (List.replicate (4 - ds.length) '0' ++ ds)
    else sayLine (allowed 'u' 6 ++ ',' :: allowed 'g' 3 ++ ',' :: allowed 'o' 0)
    return 0
  | t :: _ =>
    if t.head?.any Char.isDigit then
      match Permission.octal? t with
      | some n => set (n &&& 0o777)
      | none => abort (lit "Illegal number: " ++ t)
    else
      match changedMode (t.length + 1) none (0o777 ^^^ (mask &&& 0o777)) t with
      | some mode => set (0o777 ^^^ mode)
      | none => abort (lit "Illegal mode: " ++ t)

/-! ## Limits -/

/-- The limits of the system by their letters, each with a number if there is one. -/
def systemLimits : List (Char × Text × Option Nat) :=
  [('t', lit "time(seconds)", none), ('f', lit "file(blocks)", none), ('d', lit "data(kbytes)", none),
   ('s', lit "stack(kbytes)", some 8192), ('c', lit "coredump(blocks)", some 0), ('m', lit "memory(kbytes)", none),
   ('l', lit "locked memory(kbytes)", some 8192), ('p', lit "process", some 128620), ('n', lit "nofiles", some 20000),
   ('v', lit "vmemory(kbytes)", none), ('w', lit "locks", none), ('r', lit "rtprio", some 0)]

/-- Shows or sets limits of the system. -/
def ulimit : Builtin := fun args => do
  let (given, args) ← optionsOf (lit "HSatfdscmlpnvwr") args
  let all := given.any (·.1 = 'a')
  let letter := (((given.map (·.1)).filter fun c => c ∉ ['H', 'S', 'a']).getLast?).getD 'f'
  let changed := (← get).limits
  let shown (c : Char) (n : Option Nat) : Text := ((changed.get? c).getD n).elim (lit "unlimited") Text.ofNat
  match args with
  | [] =>
    for (c, name, n) in systemLimits do
      if all then sayLine (name ++ List.replicate (20 - name.length) ' ' ++ ' ' :: shown c n)
      else if c = letter then sayLine (shown c n)
    return 0
  | value :: more =>
    if all ∨ more ≠ [] then abort (lit "too many arguments")
    let n ← if value = lit "unlimited" then pure none
      else if value.all Char.isDigit then pure (some ((digits? value).getD 0)) else abort (lit "bad number")
    modify fun s => { s with limits := s.limits.set letter n }
    return 0

end Buildfile.Shell
