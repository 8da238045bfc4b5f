import Buildfile.Workspace.Shell.State
/-!
# Variables of a shell

Variables are set, exported, kept from being set again, and put back after functions. Some of them matter to the
shell itself: a change of `PATH` makes it forget where it found programs, and a change of `OPTIND` makes
`getopts` start over.

The environment of programs is given in the order of a table with a fixed number of rows, in which a variable
stands in the row that its name says.
-/

namespace Buildfile.Shell

/-! ## Rows -/

/-- The number of rows. -/
def rowCount : Nat := 39

/-- The number that a name has for a table of rows. -/
def hashOf (name : Text) : Nat :=
  match name with
  | [] => 0
  | c :: _ => name.foldl (fun n c => n + c.toNat) (16 * c.toNat)

/-- Entries in the order of the rows of a table, where entries of a row keep their order. -/
def inRows {α : Type} (rows : Nat) (entries : List (Text × α)) : List (Text × α) :=
  (List.range rows).flatMap fun r => entries.filter fun e => hashOf e.1 % rows = r

/-! ## Looking up -/

/-- The value of a variable. -/
def lookUp? (s : Shell) (name : Text) : Option Text := (s.vars.get? name).bind Variable.value

/-- The characters at which values are cut. -/
def separators (s : Shell) : Text := (s.lookUp? (lit "IFS")).getD [' ', '\t', '\n']

/-- The directories in which programs are looked for, in one text. -/
def searchText (s : Shell) : Text := (s.lookUp? (lit "PATH")).getD []

/-- The directories in which programs are looked for where nobody says anything else. -/
def standardPath : Text := lit "/usr/local/sbin:/usr/local/bin:/usr/sbin:/usr/bin:/sbin:/bin"

/-- The environment of programs. -/
def environment (s : Shell) : Environment :=
  ⟨inRows rowCount (s.vars.entries.filterMap fun e =>
    if e.2.exported then e.2.value.map (e.1, ·) else none)⟩

/-- The letters of the options, in the order in which they are listed. -/
def optionLetters : List Char :=
  ['e', 'f', 'I', 'i', 'm', 'n', 's', 'x', 'v', 'V', 'E', 'C', 'a', 'b', 'u', 'p']

/-! ## Setting -/

/-- What a change of a variable does besides. -/
def noteChange (name : Text) (value : Option Text) : Act Unit := do
  if name = lit "PATH" then modify fun s => { s with found := {} }
  else if name = lit "OPTIND" then
    let n ← match value with
      | some v => numberOf v
      | none => pure 1
    modify fun s => { s with optionIndex := if n = 0 then 1 else n, optionOffset := none }

/-- Changes a variable, or takes its value away, without a look at its name. -/
def changeVariable (name : Text) (value : Option Text) (new : Variable := {}) (noted : Bool := true) : Act Unit := do
  let exported := new.exported || (← has 'a')
  match (← get).vars.get? name with
  | some old =>
    if old.fixed then abort (name ++ lit ": is read only")
    if noted then noteChange name value
    if value.isNone ∧ !exported ∧ !new.fixed ∧ !new.lasting ∧ !old.lasting then
      modify fun s => { s with vars := s.vars.erase name }
    else
      let v : Variable :=
        { value, exported := old.exported || exported, fixed := new.fixed, lasting := old.lasting || new.lasting }
      modify fun s => { s with vars := s.vars.set name v }
  | none =>
    if value.isSome ∨ exported ∨ new.fixed ∨ new.lasting then
      modify fun s => { s with vars := s.vars.set name { new with value, exported } }

/-- Ends with a complaint unless an argument starts with the name of a variable, up to an equals sign if there is
one. -/
def checkName (argument : Text) : Act Unit := do
  let name := argument.takeWhile (· != '=')
  if !isName name then abort (name ++ lit ": bad variable name")

/-- Sets a variable. -/
def setVariable (name value : Text) : Act Unit := do
  checkName name
  changeVariable name (some value)

/-- Takes the value of a variable away. -/
def unsetVariable (name : Text) : Act Unit := do
  checkName name
  changeVariable (name.takeWhile (· != '=')) none

/-- Sets a variable that programs find in their environment. -/
def exportVariable (name value : Text) : Act Unit := changeVariable name (some value) { exported := true }

/-- Sets a variable without what that does besides. -/
def setQuietly (name value : Text) : Act Unit := changeVariable name (some value) {} false

/-! ## Own variables -/

/-- Makes a variable one of the function or command that is carried out, with a value if one is given. -/
def ownVariable (name : Text) (value : Option Text) (exported : Bool := false) : Act Unit := do
  let old := (← get).vars.get? name
  match old with
  | none =>
    if value.isNone then checkName name
    changeVariable name value { exported, lasting := true }
  | some v =>
    modify fun s => { s with vars := s.vars.set name { v with lasting := true } }
    if let some value := value then changeVariable name (some value) { exported }
  modify fun s => { s with
    kept := match s.kept with
      | [] => []
      | ks :: rest => (.variable name old :: ks) :: rest }

/-- Puts back what functions and commands have changed, up to so many of them. -/
def putBack (depth : Nat) : Act Unit := do
  let s ← get
  let (inner, outer) := (s.kept.take (s.kept.length - depth), s.kept.drop (s.kept.length - depth))
  set { s with kept := outer }
  for k in inner.flatten do
    match k with
    | .options letters => modify fun s => { s with options := letters }
    | .variable name none =>
      modify fun s => { s with vars := s.vars.erase name }
      if name = lit "PATH" then modify fun s => { s with found := {} }
    | .variable name (some v) =>
      if name = lit "PATH" ∨ name = lit "OPTIND" then noteChange name v.value
      modify fun s => { s with vars := s.vars.set name v }

/-! ## Listing -/

/-- Shows some variables as they would be set, in order and after a word. -/
def listVariables (word : Text) (shown : Variable → Bool) : Act Unit := do
  let s ← get
  let chosen := (s.vars.entries.filter fun e => shown e.2).mergeSort fun a b => a.1.precedes b.1
  for (name, v) in chosen do
    let value := match v.value with
      | some v => '=' :: singleQuoted v
      | none => []
    sayLine ((if word = [] then [] else word ++ [' ']) ++ name ++ value)

/-! ## At the start -/

/-- The variables that a shell has from the start. -/
def initialVariables : List (Text × Variable) :=
  let known (value : Option Text) : Variable := { value, lasting := true }
  [(lit "OPTIND", known (some ['1'])), (lit "PS4", known (some (lit "+ "))), (lit "PS2", known (some (lit "> "))),
   (lit "PS1", known (some (lit "# "))), (lit "PATH", known (some standardPath)), (lit "MAILPATH", known none),
   (lit "MAIL", known none), (lit "IFS", known (some [' ', '\t', '\n']))]

/-- The variables of a shell that is started in an environment. -/
def startVariables (e : Environment) : Table Text Variable :=
  let imported := e.entries.foldl (fun (t : Table Text Variable) v =>
    if isName v.1 then t.set v.1 { value := some v.2, exported := true, lasting := ((t.get? v.1).any Variable.lasting) }
    else t) ⟨initialVariables⟩
  let restored (t : Table Text Variable) (name : Text) (value : Text) : Table Text Variable :=
    t.set name { (t.get? name).getD {} with value := some value }
  restored (restored imported (lit "IFS") [' ', '\t', '\n']) (lit "OPTIND") ['1']

end Buildfile.Shell
