import Buildfile.Workspace.Utility.Copying
/-!
# Links

Utilities that give a file a further name, or make a link to a path. What is in the way is replaced only if
that is asked for.
-/

namespace Buildfile.Utility

/-- How links are made. -/
structure Linking where
  symbolic : Bool := false
  force : Bool := false
  interactive : Bool := false
  verbose : Bool := false
  /-- Whether a path to link to starts at the directory of the link. -/
  relative : Bool := false
  follow : Bool := false
  backup : Backup := .none
  suffix : Text := ['~']
  deriving Inhabited

/-- A path as it is seen from the directory of another one. -/
def relativeTo (t : Tree) (here : Place) (source path : Text) : Text :=
  match Canonical.names? t here .everything (Path.parent path), Canonical.names? t here .everything source with
  | .ok base, .ok names => Canonical.relative base names
  | _, _ => source

/-- Whether a link would replace what it leads to. -/
def replacesItself (t : Tree) (here : Place) (follow : Bool) (source path : Text) : Bool :=
  match t.lookup here source follow, t.lookup here path false with
  | .ok p, .ok q => p = q && (linkCount t p = 1 || sameEntry t here source path)
  | _, _ => false

/-- Makes a link in the tree. -/
def Linking.apply (l : Linking) (source path : Text) (t : Tree) (here : Place) (now : Int) : Except Errno Tree :=
  if l.symbolic then t.symlink here source path now else t.link here source path l.follow

/-- Makes a link at a path. -/
def linkOne (name : Text) (l : Linking) (source path : Text) : Program Int := do
  let source ← if l.relative then Program.inTree fun t here => relativeTo t here source path else pure source
  let failed (e : Errno) : Program Int := do
    let shown := Quoting.always path
    let what := if l.symbolic then
        lit "failed to create symbolic link " ++ shown ++
          if e ≠ .nameTooLong ∧ source ≠ [] then [] else lit " -> " ++ Quoting.always source
      else lit "failed to create hard link " ++ shown ++
        if e = .alreadyExists then [] else lit " => " ++ Quoting.always source
    complainOf name what e
    return 1
  let done (kept : Option Text) : Program Int := do
    if l.verbose then
      put name (((kept.map fun k => Quoting.always k ++ lit " ~ ").getD []) ++ Quoting.always path ++
        (if l.symbolic then lit " -> " else lit " => ") ++ Quoting.always source ++ ['\n'])
    return 0
  match ← Program.onTree fun t here _ now => l.apply source path t here now with
  | .ok () => done none
  | .error first =>
    if !l.symbolic then
      match ← Program.inTree fun t here => t.nodeOf here source l.follow with
      | .error e =>
        complainOf name (lit "failed to access " ++ Quoting.always source) e
        return (1 : Int)
      | .ok n =>
        if n.isDirectory then
          complain name (Quoting.ifNeeded source ++ lit ": hard link not allowed for directory")
          return 1
    if !l.force ∧ !l.interactive ∧ l.backup = .none then return ← failed first
    match ← statLink path with
    | .error e =>
      if e = .noEntry then failed first
      else
        complainOf name (lit "failed to access " ++ Quoting.always path) e
        return 1
    | .ok old =>
      if old.isDirectory then
        complain name (Quoting.ifNeeded path ++ lit ": cannot overwrite directory")
        return 1
      if ← Program.inTree fun t here => replacesItself t here (l.symbolic || l.follow) source path then
        complain name (Quoting.always source ++ lit " and " ++ Quoting.always path ++ lit " are the same file")
        return 1
      if l.interactive then
        if !(← confirm name (lit "replace " ++ Quoting.always path)) then return 1
      let kept ← if l.backup = .none then pure none else do
        let k ← Program.inTree fun t here => l.backup.pathFor l.suffix t here path
        discard <| Program.onTree fun t here _ _ => t.rename here path k
        pure (some k)
      let same ← Program.inTree fun t here => FileTest.same t here source path
      if !l.symbolic ∧ same ∧ kept.isNone then return ← done kept
      match ← Program.onTree fun t here _ now =>
        (if kept.isNone then t.unlink here path else .ok t).bind fun t => l.apply source path t here now with
      | .ok () => done kept
      | .error e => failed e

/-- The options about links. -/
def linkOptions : List Known :=
  Backup.options ++
  [flag 'd' (lit "directory"), flag 'F', flag 'f' (lit "force"), flag 'i' (lit "interactive"), flag 'L' (lit "logical"),
   flag 'n' (lit "no-dereference"), flag 'P' (lit "physical"), flag 'r' (lit "relative"), flag 's' (lit "symbolic"),
   valued 't' (lit "target-directory"), flag 'T' (lit "no-target-directory"), flag 'v' (lit "verbose")]

/-- Makes links to files. -/
def ln : Utility := fun name args => do
  let (given, operands) ← options name linkOptions args
  let asks := (lastOf? given [['f'], ['i']]).map Given.key
  let l : Linking :=
    { symbolic := hasLetter given 's', force := asks = some ['f'], interactive := asks = some ['i']
      verbose := hasLetter given 'v', relative := hasLetter given 'r'
      follow := (lastOf? given [['L'], ['P']]).map Given.key = some ['L']
      backup := ← Backup.ofGiven name given
      suffix := ← Backup.suffixOf given }
  let nodeAt (d : Text) : Program (Except Errno Node) :=
    Program.inTree fun t here => t.nodeOf here d (!hasLetter given 'n' || d.getLast? = some '/')
  let into (d : Text) (sources : List Text) : Program Int :=
    forEach (fun s => linkOne name l s (Path.join d (Path.base s))) sources
  let bare := hasLetter given 'T'
  let fail (message : Text) (e : Option Errno) : Program Int := do
    complain name (message ++ (e.map fun e => lit ": " ++ e.message).getD [])
    return 1
  if l.relative ∧ !l.symbolic then
    complain name (lit "cannot do --relative without --symbolic")
    return 1
  match value? given ['t'], operands with
  | _, [] => misuse name (lit "missing file operand")
  | some d, sources =>
    if bare then fail (lit "cannot combine --target-directory and --no-target-directory") none
    else match ← nodeAt d with
      | .ok n => if n.isDirectory then into d sources else fail (lit "target " ++ Quoting.always d ++ lit " is not a directory") none
      | .error e => fail (lit "failed to access " ++ Quoting.always d) (some e)
  | none, [source] =>
    if bare then misuse name (lit "missing destination file operand after " ++ Quoting.always source) else into ['.'] [source]
  | none, [source, path] =>
    let isDirectory : Bool := (← nodeAt path).toOption.any Node.isDirectory
    if !bare ∧ isDirectory then into path [source] else linkOne name l source path
  | none, sources =>
    if bare then misuse name (lit "extra operand " ++ Quoting.always ((sources.drop 2).headD []))
    let d := sources.getLastD []
    match ← nodeAt d with
    | .ok n => if n.isDirectory then into d sources.dropLast else fail (lit "target " ++ Quoting.always d) (some .notDirectory)
    | .error e => fail (lit "target " ++ Quoting.always d) (some e)

/-- Gives a file a further name. -/
def link : Utility := fun name args => do
  let (_, operands) ← options name [] args
  match operands with
  | [] => missingOperand name
  | [a] => misuseWith name (lit "missing operand after ") a []
  | [a, b] =>
    match ← Program.onTree fun t here _ _ => t.link here a b with
    | .ok () => return 0
    | .error e =>
      complainOf name (lit "cannot create link " ++ Quoting.always b ++ lit " to " ++ Quoting.always a) e
      return 1
  | _ :: _ :: c :: _ => extraOperand name c

end Buildfile.Utility
