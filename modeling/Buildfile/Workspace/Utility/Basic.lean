import Buildfile.Workspace.Floating
import Buildfile.Workspace.Process
import Buildfile.Workspace.Utility.Options
import Buildfile.Workspace.Utility.Quoting
/-!
# Utilities

A utility is a program that does one small thing to text or to files. It is called by a name, which it goes
by in its complaints, and comes to a status: zero if all went well.
-/

namespace Buildfile

/-- What a utility does with the name that it is called by and its arguments. -/
abbrev Utility := (name : Text) → (arguments : List Text) → Program Int

namespace Utility

/-- The process of a utility. -/
def process (u : Utility) : Process := Program.process do
  let arguments := (← Program.task).arguments
  u (arguments.headD []) (arguments.drop 1)

/-! ## Messages -/

/-- Writes a line to standard error. -/
def tell (line : Text) : Program Unit := do discard <| Program.write 2 (line ++ ['\n'])

/-- Complains. -/
def complain (name message : Text) : Program Unit := tell (name ++ lit ": " ++ message)

/-- Complains of what the system refuses. -/
def complainOf (name what : Text) (e : Errno) : Program Unit := complain name (what ++ lit ": " ++ e.message)

/-- Writes to standard output; the utility fails with a status if that cannot be. -/
def put (name : Text) (content : Text) (status : Int := 1) : Program Unit := do
  match ← Program.write 1 content with
  | .ok () => return ()
  | .error e =>
    complainOf name (lit "write error") e
    Program.exit status

/-- The hint that a utility gives after it has been misused. -/
def hint (name : Text) : Program Unit := tell (lit "Try '" ++ name ++ lit " --help' for more information.")

/-- Complains of a misuse and ends. -/
def misuse {α : Type} (name message : Text) (status : Int := 1) : Program α := do
  complain name message
  hint name
  Program.exit status

/-- The options that every utility knows. -/
def commonOptions : List Known := [named (lit "help"), named (lit "version")]

/-- The options and the other arguments of a utility. It ends if it does not understand them, and if it is only
asked about itself. -/
def options (name : Text) (known : List Known) (arguments : List Text) (mixed : Bool := true) (status : Int := 1) :
    Program (List Given × List Text) :=
  match parse (known ++ commonOptions) arguments mixed with
  | .ok r => if commonOptions.any fun k => has r.1 k.name then Program.exit 0 else return r
  | .error f => misuse name f.message status

/-- The character set variables that decide, the first one set first. -/
def localeVariables : List Text := [lit "LC_ALL", lit "LC_CTYPE", lit "LANG"]

/-- Whether the environment asks for no character set but the simplest one. -/
def isSimple (e : Environment) : Bool :=
  match (localeVariables.filterMap e.get?).find? (· ≠ []) with
  | some v => v = lit "C" || v = lit "POSIX"
  | none => true

/-- A word between the quotation marks of the character set in use. -/
def quoted (t : Text) : Program Text := return Quoting.word (isSimple (← Program.task).environment) t

/-- Complains with a quoted word. -/
def complainWith (name before word after : Text) : Program Unit := do
  complain name (before ++ (← quoted word) ++ after)

/-- Complains of a misuse with a quoted word, and ends. -/
def misuseWith {α : Type} (name before word after : Text) (status : Int := 1) : Program α := do
  complainWith name before word after
  hint name
  Program.exit status

/-- Ends with a complaint that an operand is missing. -/
def missingOperand {α : Type} (name : Text) (status : Int := 1) : Program α := misuse name (lit "missing operand") status

/-- Ends with a complaint that an operand is too much. -/
def extraOperand {α : Type} (name operand : Text) (status : Int := 1) : Program α :=
  misuseWith name (lit "extra operand ") operand [] status

/-- Asks a question and gives the answer. -/
def confirm (name question : Text) : Program Bool := do
  discard <| Program.write 2 (name ++ lit ": " ++ question ++ ['?', ' '])
  let (line, _) ← Program.readLine 0
  return line.head? = some 'y' ∨ line.head? = some 'Y'

/-! ## Operands -/

/-- Treats operands one after another; the status is the greatest. -/
def forEach (f : Text → Program Int) : List Text → Program Int
  | [] => return 0
  | a :: rest => do
    let status ← f a
    return max status (← forEach f rest)

/-- The bytes that an operand stands for: a file, or standard input for a dash. -/
def readOperand (operand : Text) : Program (Except Errno Text) :=
  if operand = ['-'] then Program.readAll 0 else Program.readFile operand

/-- Reads operands, or standard input if there are none; complains of those that cannot be read. -/
def readOperands (name : Text) (operands : List Text) : Program (List (Text × Text) × Int) :=
  go (if operands = [] then [['-']] else operands)
where
  /-- Reads one operand after another. -/
  go : List Text → Program (List (Text × Text) × Int)
    | [] => return ([], 0)
    | a :: rest => do
      match ← readOperand a with
      | .ok content =>
        let (others, status) ← go rest
        return ((a, content) :: others, status)
      | .error e =>
        complainOf name (Quoting.ifNeeded a) e
        let (others, _) ← go rest
        return (others, 1)

/-! ## Numbers -/

/-- The natural number that a text consists of the digits of. -/
def decimal? (t : Text) : Option Nat := if t ≠ [] ∧ t.all Char.isDigit then some (Floating.ofDigits 10 t) else none

/-- A number of bytes with a letter for its unit. -/
def size? (t : Text) : Option Nat :=
  let ds := t.takeWhile Char.isDigit
  let n := Floating.ofDigits 10 ds
  let scale (letter : Char) : Option Nat := ((lit "KMGTPE").findIdx? (· == letter.toUpper)).map (· + 1)
  if ds = [] then none
  else match t.drop ds.length with
    | [] => some n
    | ['b'] => some (512 * n)
    | ['w'] => some (2 * n)
    | ['c'] => some n
    | [c] => (scale c).map fun k => n * Nat.pow 1024 k
    | [c, 'B'] => (scale c).map fun k => n * Nat.pow 1000 k
    | [c, 'i', 'B'] => (scale c).map fun k => n * Nat.pow 1024 k
    | _ => none

/-! ## Lines -/

/-- The lines of a text; what follows the last line end is a line if there is anything. -/
def lines (t : Text) : List Text :=
  match (Text.pieces (· == '\n') t).reverse with
  | [] :: ls => ls.reverse
  | ls => ls.reverse

end Utility

end Buildfile
