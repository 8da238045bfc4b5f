import Buildfile.Workspace.Shell.Builtin.Output
import Buildfile.Workspace.Shell.Fields
import Buildfile.Workspace.Shell.Variables
/-!
# Builtins that change what the shell holds

Variables, parameters and options are set by builtins; `read` sets variables from a line of the input, and `getopts`
from the parameters.
-/

namespace Buildfile.Shell

/-! ## Variables -/

/-- Gives variables a mark, with a value if one is given; without any, shows those that have the mark. -/
def markVariables (name : Text) (mark : Variable) (marked : Variable → Bool) : Builtin := fun args => do
  let (given, words) ← optionsOf ['p'] args
  if !given.isEmpty ∨ words = [] then
    listVariables name marked
    return 0
  for w in words do
    let x := w.takeWhile (· != '=')
    match (← get).vars.get? w with
    | some v =>
      let v : Variable := { v with exported := v.exported || mark.exported, fixed := v.fixed || mark.fixed }
      modify fun s => { s with vars := s.vars.set w v }
    | none =>
      checkName w
      changeVariable x (if '=' ∈ w then some (w.drop (x.length + 1)) else none) mark
  return 0

/-- Lets programs find variables in their environment. -/
def exports : Builtin := markVariables (lit "export") { exported := true } Variable.exported

/-- Lets variables keep their values. -/
def readonly : Builtin := markVariables (lit "readonly") { fixed := true } Variable.fixed

/-- Gives a function variables, or options, of its own. -/
def locals : Builtin := fun args => do
  if (← get).kept.isEmpty then abort (lit "not in a function")
  for w in args do
    if w = ['-'] then
      modify fun s => { s with
        kept := match s.kept with
          | [] => []
          | ks :: rest => (.options s.options :: ks) :: rest }
    else
      let x := w.takeWhile (· != '=')
      ownVariable x (if '=' ∈ w then some (w.drop (x.length + 1)) else none)
  return 0

/-- Takes away variables, or functions. -/
def unset : Builtin := fun args => do
  let (given, names) ← optionsOf ['v', 'f'] args
  for n in names do
    if given.getLast?.any (·.1 = 'f') then modify fun s => { s with functions := s.functions.erase n }
    else unsetVariable n
  return 0

/-! ## Parameters -/

/-- Sets the parameters. -/
def setParameters (parameters : List Text) : Act Unit := modify fun s =>
  { s with parameters, optionIndex := 1, optionOffset := none }

/-- Leaves out the first parameters. -/
def shift : Builtin := fun args => do
  let n ← match args with
    | [] => pure 1
    | a :: _ => numberOf a
  let parameters := (← get).parameters
  if parameters.length < n then abort (lit "can't shift that many")
  setParameters (parameters.drop n)
  return 0

/-! ## Options -/

/-- The names of the options, with their letters; some have a letter that nobody writes. -/
def optionNames : List (Text × Char) :=
  [(lit "errexit", 'e'), (lit "noglob", 'f'), (lit "ignoreeof", 'I'), (lit "interactive", 'i'), (lit "monitor", 'm'),
   (lit "noexec", 'n'), (lit "stdin", 's'), (lit "xtrace", 'x'), (lit "verbose", 'v'), (lit "vi", 'V'),
   (lit "emacs", 'E'), (lit "noclobber", 'C'), (lit "allexport", 'a'), (lit "notify", 'b'), (lit "nounset", 'u'),
   (lit "privileged", 'p'), (lit "nolog", '\x01'), (lit "debug", '\x02')]

/-- Turns an option on or off. -/
def turn (on : Bool) (letter : Char) : Act Unit := modify fun s =>
  let others := s.options.filter (· != letter)
  { s with options := if on then letter :: others else others }

/-- Turns on or off the option with a letter. -/
def turnLetter (on : Bool) (letter : Char) : Act Unit := do
  if !optionLetters.contains letter then abort (lit "Illegal option " ++ [if on then '-' else '+', letter])
  turn on letter
  if on ∧ letter = 'V' then turn false 'E'
  if on ∧ letter = 'E' then turn false 'V'

/-- Turns on or off the option with a name. -/
def turnName (on : Bool) (name : Text) : Act Unit :=
  match optionNames.lookup name with
  | some letter => turn on letter
  | none => abort (lit "Illegal option " ++ [if on then '-' else '+', 'o', ' '] ++ name)

/-- Shows all options: in a table, or as the commands that set them. -/
def listOptions (table : Bool) : Act Unit := do
  let options := (← get).options
  if table then sayLine (lit "Current option settings")
  for (name, letter) in optionNames do
    let on := options.contains letter
    if table then sayLine (name ++ List.replicate (16 - name.length) ' ' ++ if on then lit "on" else lit "off")
    else sayLine (lit "set " ++ ['-', 'o'].map (fun c => if on ∨ c = 'o' then c else '+') ++ ' ' :: name)

/-- Turns on or off options by letters, and by the names after them; gives the arguments that are left and what comes
after a letter `c`, which only the start of a shell knows. -/
def turnLetters (starting on : Bool) : Text → List Text → Act (List Text × Bool)
  | [], args => return (args, false)
  | c :: cs, args => do
    if starting ∧ c = 'c' then
      let (rest, _) ← turnLetters starting on cs args
      return (rest, true)
    else if starting ∧ c = 'l' then turnLetters starting on cs args
    else if c = 'o' then
      match args with
      | [] => listOptions on
      | name :: _ => turnName on name
      turnLetters starting on cs (args.drop 1)
    else
      turnLetter on c
      turnLetters starting on cs args

/-- Turns on and off the options at the start of some arguments, at most so many, and gives the others; whether a
letter `c` was among them; and whether a double dash was the last argument. -/
def turnOptions (starting : Bool) : Nat → List Text → Act (List Text × Bool × Bool)
  | 0, args => return (args, false, false)
  | n + 1, args => do
    match args with
    | ['-'] :: rest =>
      if !starting then
        turn false 'x'
        turn false 'v'
      return (rest, false, false)
    | ['-', '-'] :: rest => return (rest, false, rest.isEmpty)
    | (sign :: letters) :: rest =>
      if sign ≠ '-' ∧ sign ≠ '+' then return (args, false, false)
      let (rest, script) ← turnLetters starting (sign = '-') letters rest
      let (rest, others, cleared) ← turnOptions starting n rest
      return (rest, script || others, cleared)
    | _ => return (args, false, false)

/-- Gives up the control of jobs, since there is no terminal. -/
def leaveJobControl : Act Unit := do
  let s ← get
  if s.options.contains 'm' ∧ !s.isCopy then
    warn (lit "can't access tty; job control turned off")
    turn false 'm'

/-- Turns options on and off, and sets the parameters; without arguments, shows all variables. -/
def settings : Builtin := fun args => do
  if args = [] then
    listVariables [] fun v => v.value.isSome
    return 0
  let (rest, _, cleared) ← turnOptions false args.length args
  leaveJobControl
  if cleared ∨ rest ≠ [] then setParameters rest
  return 0

/-- Looks at the next option among the parameters, or among other arguments. -/
def getopts : Builtin := fun args => do
  let (_, args) ← optionsOf [] args
  let usage := lit "Usage: getopts optstring var [arg]"
  let s ← get
  match args with
  | known :: name :: given =>
    let words := if given = [] then s.parameters else given
    let outside := words.length + 1 < s.optionIndex
    let index := if outside then 1 else s.optionIndex
    let offset := if outside then none else s.optionOffset
    let partly := ((words[index - 2]?).bind fun w => offset.bind fun o => if o ≤ w.length then some (w.drop o) else none)
    match if index ≤ 1 then none else partly with
    | some (c :: rest) => option known name words (index - 1) c rest
    | _ =>
      match words[index - 1]? with
      | some ['-', '-'] => settled name index '?' none true
      | some ('-' :: c :: rest) => option known name words index c rest
      | _ => settled name (index - 1) '?' none true
  | _ => abort usage
where
  /-- The letters from a certain one on. -/
  fromLetter (c : Char) : Nat → Text → Option Text
    | 0, _ | _, [] => none
    | n + 1, d :: t => if d = c then some (d :: t) else fromLetter c n (if t.head? = some ':' then t.drop 1 else t)
  /-- Notes how far the options have been looked at: so many words, and what is left of the last of them. -/
  settled (name : Text) (used : Nat) (letter : Char) (offset : Option Nat) (done : Bool) : Act Int := do
    setQuietly (lit "OPTIND") (Text.ofNat (used + 1))
    setVariable name [letter]
    modify fun s => { s with optionIndex := used + 1, optionOffset := offset }
    return if done then 1 else 0
  /-- Looks at an option, after which something is left of a word. -/
  option (known name : Text) (words : List Text) (used : Nat) (c : Char) (rest : Text) : Act Int := do
    let quiet := known.head? = some ':'
    let offset := (words[used - 1]?).map fun w => w.length - rest.length
    let argument : Text := lit "OPTARG"
    let refuse (quietly : Char) (message : Text) : Act Int := do
      if quiet then setVariable argument [c]
      else
        tell (message ++ ['\n'])
        unsetVariable argument
      settled name used (if quiet then quietly else '?') offset false
    match fromLetter c (known.length + 1) known with
    | none => refuse '?' (lit "Illegal option -" ++ [c])
    | some (_ :: ':' :: _) =>
      if rest ≠ [] then
        setVariable argument rest
        settled name used c none false
      else match words[used]? with
        | none => refuse ':' (lit "No arg for -" ++ c :: lit " option")
        | some w =>
          setVariable argument w
          settled name (used + 1) c none false
    | some _ =>
      setVariable argument []
      settled name used c offset false

/-! ## Input -/

/-- Reads a line in runs, of which those behind a backslash are not cut unless `raw`; the flag tells whether the line has
an end. The text is what has been read of the last run, the latest first. The first argument bounds the line. -/
def readRuns (raw : Bool) : Nat → (escaped : Bool) → Text → List Run → Program (List Run × Bool)
  | 0, _, t, runs => return (finished t runs, false)
  | n + 1, escaped, t, runs => do
    match ← Program.read 0 1 with
    | .ok ['\x00'] => readRuns raw n escaped t runs
    | .ok [c] =>
      if escaped then
        let runs := cut t :: runs
        readRuns raw n false [] (if c = '\n' then runs else { text := [(c, true)] } :: runs)
      else if c = '\\' ∧ !raw then readRuns raw n true t runs
      else if c = '\n' then return (finished t runs, true)
      else readRuns raw n false (c :: t) runs
    | _ => return (finished t runs, false)
where
  /-- A run that is cut. -/
  cut (t : Text) : Run := { text := Marked.ofText false t.reverse, cut := .separators }
  /-- All runs. -/
  finished (t : Text) (runs : List Run) : List Run := (cut t :: runs).reverse

/-- Sets variables to the fields of a line of the input. -/
def read : Builtin := fun args => do
  let (given, names) ← optionsOf (lit "p:r") args
  if names = [] then abort (lit "arg count")
  let (runs, ended) ← (readRuns (given.any (·.1 = 'r')) Program.rounds false [] [] : Program (List Run × Bool))
  let fields := (fieldsOf (separators (← get)) runs (some names.length)).map Marked.text
  for (name, i) in names.zipIdx do
    setVariable name (fields[i]?.getD [])
  return if ended then 0 else 1

end Buildfile.Shell
