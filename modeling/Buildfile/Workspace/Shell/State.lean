import Buildfile.Text.Numeral
import Buildfile.Workspace.Floating
import Buildfile.Workspace.Process
import Buildfile.Workspace.Shell.Reader
/-!
# The state of a shell

A shell has variables, functions, options and parameters, and it knows the processes that it has started. What
it does is a program that acts on this state, and that may leave what it is doing: an `Act`.

What a builtin shows is held back until the builtin ends, while complaints are shown at once.
-/

namespace Buildfile

namespace Shell

/-- A variable. -/
structure Variable where
  value : Option Text := none
  /-- Whether programs find it in their environment. -/
  exported : Bool := false
  /-- Whether it keeps its value. -/
  fixed : Bool := false
  /-- Whether it stays known without a value. -/
  lasting : Bool := false
  deriving DecidableEq, Inhabited

/-- A function, and the documents of the script that it comes from. -/
structure Function where
  body : Action
  documents : List Word
  deriving Inhabited

/-- What is left undone. -/
inductive Skip where
  /-- The rest of so many loops. -/
  | stop (loops : Nat)
  /-- The rest of a round of the last of so many loops, and of all the others. -/
  | round (loops : Nat)
  /-- The rest of a function or of a file; a status was given for it if `decided`. -/
  | rest (decided : Bool)
  deriving DecidableEq, Inhabited

/-- Why the shell leaves what it does. -/
inductive Jump where
  /-- A fault ends the shell. -/
  | fault
  /-- The shell ends by itself. -/
  | finished
  /-- The shell is asked to end. -/
  | asked
  deriving DecidableEq, Inhabited

/-- What is put back after a function. -/
inductive Kept where
  | variable (name : Text) (old : Option Variable)
  | options (letters : List Char)
  deriving Inhabited

/-- Processes that were started together, each with the status that it has ended with. -/
structure Job where
  number : Nat
  processes : List (Nat × Option Int)
  /-- Whether it has been waited for. -/
  waited : Bool := false
  deriving Inhabited

namespace Job

/-- Whether all processes have ended. -/
def isDone (j : Job) : Bool := j.processes.all (·.2.isSome)

/-- The process that a job goes by. -/
def last (j : Job) : Nat := (j.processes.getLast?.map (·.1)).getD 0

/-- The status of the last process; one below zero names a signal. -/
def status (j : Job) : Int := (j.processes.getLast?.bind (·.2)).getD 0

/-- The job after a process has ended. -/
def after (j : Job) (p : Nat) (status : Int) : Job :=
  { j with processes := j.processes.map fun e => if e.1 = p then (p, some status) else e }

end Job

end Shell

open Shell in
/-- The state of a shell. -/
structure Shell where
  /-- The name that the shell goes by in complaints. -/
  name : Text
  /-- The builtin or the file that complains, if any. -/
  speaker : Option Text := none
  /-- The line of what is carried out. -/
  line : Nat := 0
  /-- The line up to which the script has been read. -/
  reached : Nat := 1
  parameters : List Text := []
  vars : Table Text Variable := {}
  functions : Table Text Function := {}
  aliases : Table Text Text := {}
  /-- What is carried out when a signal comes; zero stands for the end of the shell. -/
  traps : Table Nat Text := {}
  /-- The signals that have come and for which something is still to be carried out. -/
  received : List Nat := []
  /-- The signals that the shell was told to ignore when it was started. -/
  ignored : List Nat := []
  /-- The letters of the options that are on. -/
  options : List Char := []
  status : Int := 0
  /-- The status of the last commands whose output was taken. -/
  taken : Int := 0
  /-- The status that stays while something else is carried out. -/
  saved : Option Int := none
  skip : Option Skip := none
  /-- The number of loops around what is carried out. -/
  loops : Nat := 0
  /-- What functions and commands put back at their end, the innermost first. -/
  kept : List (List Kept) := []
  /-- The directories of `PATH` in which programs were found, by number, and whether they are to be looked for again. -/
  found : Table Text (Nat × Bool) := {}
  /-- The jobs, the latest first. -/
  jobs : List Job := []
  /-- The last process that was not waited for. -/
  background : Option Nat := none
  /-- The process of the shell that was started first. -/
  number : Nat := 0
  /-- Whether this is a copy of another shell. -/
  isCopy : Bool := false
  /-- The directory that the shell works in, as it was named. -/
  here : Text := []
  /-- The number of the next parameter that `getopts` looks at, and how far it has come in the one before. -/
  optionIndex : Nat := 1
  optionOffset : Option Nat := none
  /-- The limits of the system that have been changed. -/
  limits : Table Char (Option Nat) := {}
  /-- What a builtin has shown, the latest first. -/
  shown : List Text := []
  /-- Whether a command is being shown before it runs. -/
  tracing : Bool := false
  deriving Inhabited

namespace Shell

/-- What a shell does. -/
abbrev Act (α : Type) : Type := ExceptT Jump (StateT Shell Program) α

instance {α : Type} : Inhabited (Act α) := ⟨throw .fault⟩

/-- Looks at the state of the shell. -/
def see {α : Type} (f : Shell → α) : Act α := return f (← get)

/-- Does something and tells how it was left, if it was. -/
def outcome {α : Type} (a : Act α) : Act (Except Jump α) := tryCatch (Except.ok <$> a) fun j => return .error j

/-- Goes on from an outcome. -/
def settle {α : Type} : Except Jump α → Act α
  | .ok v => return v
  | .error j => throw j

/-- Does something, and something else after it whether it was left or not. -/
def ensuring {α : Type} (a : Act α) (after : Act Unit) : Act α := do
  let r ← outcome a
  after
  settle r

/-! ## Output -/

/-- Shows text once the builtin ends. -/
def say (t : Text) : Act Unit := modify fun s => { s with shown := t :: s.shown }

/-- Shows a line once the builtin ends. -/
def sayLine (t : Text) : Act Unit := say (t ++ ['\n'])

/-- Writes to a descriptor at once. -/
def writeTo (fd : Nat) (t : Text) : Act Unit := do discard <| (Program.write fd t : Program (Except Errno Unit))

/-- Writes to standard error at once. -/
def tell (t : Text) : Act Unit := writeTo 2 t

/-- Complains of a line, in the name of what is carried out. -/
def warnAt (line : Nat) (message : Text) : Act Unit := do
  let s ← get
  let speaker := match s.speaker with
    | some n => n ++ lit ": "
    | none => []
  tell (s.name ++ lit ": " ++ Text.ofNat line ++ lit ": " ++ speaker ++ message ++ ['\n'])

/-- Complains, in the name of what is carried out. -/
def warn (message : Text) : Act Unit := do warnAt (← get).line message

/-- Sets the status. -/
def setStatus (n : Int) : Act Unit := modify fun s => { s with status := n }

/-- Leaves what is done with a complaint. -/
def abort {α : Type} (message : Text) : Act α := do
  setStatus 2
  warn message
  throw .fault

/-- Leaves what is done since the script cannot be read. -/
def abortReading {α : Type} (line : Nat) (message : Text) : Act α := do
  setStatus 2
  warnAt line message
  throw .fault

/-- Whether an option is on. -/
def has (letter : Char) : Act Bool := see fun s => s.options.contains letter

/-- A status as the shell shows it: a signal counts from 128. -/
def shownStatus (status : Int) : Int := if status < 0 then 128 - status else status

/-! ## Numbers -/

/-- The number that an argument consists of the digits of. -/
def digits? (t : Text) : Option Nat :=
  if t ≠ [] ∧ t.all Char.isDigit then some (t.foldl (fun n c => 10 * n + (c.toNat - '0'.toNat)) 0) else none

/-- The greatest number that an argument may be. -/
def maxNumber : Nat := 0x7FFFFFFF

/-- The number that an argument has to be; there may be blanks around it, and a plus sign before it. -/
def numberOf (t : Text) : Act Nat :=
  let trimmed := ((t.dropWhile Floating.isSpace).reverse.dropWhile Floating.isSpace).reverse
  match digits? (if trimmed.head? = some '+' then trimmed.drop 1 else trimmed) with
  | some n => if n ≤ maxNumber then return n else abort (lit "Illegal number: " ++ t)
  | none =>
    if trimmed.head? = some '-' ∧ trimmed.length > 1 ∧ (trimmed.drop 1).all (· == '0') then return 0
    else abort (lit "Illegal number: " ++ t)

/-! ## Quotes -/

/-- A text in single quotes, with its own single quotes in double quotes. The first argument bounds its
length. -/
def singleQuotedWithin : Nat → Text → Text
  | 0, _ => []
  | k + 1, t =>
    let plain := t.takeWhile (· != '\'')
    let quotes := (t.drop plain.length).takeWhile (· == '\'')
    let rest := t.drop (plain.length + quotes.length)
    '\'' :: plain ++ ['\''] ++ (if quotes = [] then [] else '"' :: quotes ++ ['"']) ++
      if rest = [] then [] else singleQuotedWithin k rest

/-- A text in single quotes, with its own single quotes in double quotes. -/
def singleQuoted (t : Text) : Text := singleQuotedWithin (t.length + 1) t

/-! ## Options of builtins -/

/-- The options at the start of some arguments, of which those with a colon after them in `known` have a value,
and the other arguments; or what is said of one that is wrong. The first argument bounds the arguments. -/
def optionsWithin (known : Text) : Nat → Text → List Text → Except Text (List (Char × Text) × List Text)
  | 0, _, args => .ok ([], args)
  | k + 1, [], args =>
    match args with
    | ['-', '-'] :: rest => .ok ([], rest)
    | ('-' :: c :: cs) :: rest => optionsWithin known k (c :: cs) rest
    | _ => .ok ([], args)
  | k + 1, c :: cs, args =>
    match if c = ':' then [] else known.dropWhile (· != c) with
    | [] => .error (lit "Illegal option -" ++ [c])
    | _ :: ':' :: _ =>
      if cs ≠ [] then (optionsWithin known k [] args).map fun r => ((c, cs) :: r.1, r.2)
      else match args with
        | [] => .error (lit "No arg for -" ++ c :: lit " option")
        | v :: rest => (optionsWithin known k [] rest).map fun r => ((c, v) :: r.1, r.2)
    | _ => (optionsWithin known k cs args).map fun r => ((c, []) :: r.1, r.2)

/-- The options at the start of the arguments of a builtin, and the other arguments. -/
def optionsOf (known : Text) (args : List Text) : Act (List (Char × Text) × List Text) :=
  match optionsWithin known (args.flatten.length + args.length + 1) [] args with
  | .ok r => return r
  | .error m => abort m

end Shell

end Buildfile
