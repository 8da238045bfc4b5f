import Buildfile.Workspace.Shell.Expression
import Buildfile.Workspace.Shell.Fields
import Buildfile.Workspace.Shell.Variables
/-!
# Expansion of words

A word stands for any number of arguments: what its unquoted parts expand to is cut at separators, and a pattern
among them stands for the paths that it matches. Where one text is needed, as in an assignment, nothing is cut.

Expanding a word may change the shell, since variables may be set on the way. How the output of a script comes
about is a parameter here.
-/

namespace Buildfile.Shell

/-- How pieces are expanded. -/
structure Mode where
  /-- Whether they stand for any number of arguments. -/
  full : Bool := false
  quoted : Bool := false
  /-- Whether they stand inside a parameter, so that their own text is cut too. -/
  inner : Bool := false
  /-- Whether a tilde stands for a directory after a colon. -/
  colons : Bool := false
  deriving Inhabited

/-- The output of a script. -/
abbrev Output := Script → Act Text

/-! ## Parameters -/

/-- What stands between all parameters in one text. -/
def parameterSeparator (s : Shell) (m : Mode) (name : Text) : Text :=
  let first : Text := match s.lookUp? (lit "IFS") with
    | none => [' ']
    | some ifs => ifs.take 1
  if m.full ∧ m.quoted ∧ name = ['@'] then ['\x00']
  else if m.full ∧ !m.quoted then (if (s.lookUp? (lit "IFS")).isSome then ['\x00'] else [' '])
  else first

/-- The value of a parameter. -/
def parameter? (s : Shell) (m : Mode) (name : Text) : Option Text :=
  match name with
  | ['$'] => some (Text.ofNat s.number)
  | ['?'] => some (Text.ofInt s.status)
  | ['#'] => some (Text.ofNat s.parameters.length)
  | ['!'] => s.background.map Text.ofNat
  | ['-'] => some (optionLetters.reverse.filter s.options.contains)
  | ['0'] => some s.name
  | ['@'] | ['*'] => some ((parameterSeparator s m name).intercalate s.parameters)
  | _ =>
    match digits? name with
    | some 0 => some s.name
    | some (n + 1) => s.parameters[n]?
    | none => s.lookUp? name

/-- A run of text that a piece stands for. -/
def valueRun (m : Mode) (t : Text) : Run := { text := Marked.ofText m.quoted t, cut := if m.quoted then .nowhere else .separators }

/-- The run of the value of a parameter. -/
def parameterRun (s : Shell) (m : Mode) (name t : Text) : Run :=
  if m.quoted ∧ name = ['@'] ∧ s.parameters ≠ [] then { text := Marked.ofText true t, cut := .ends } else valueRun m t

/-- What is said of a parameter without a value. -/
def unsetReason (orEmpty : Bool) : Text := lit "parameter not set" ++ if orEmpty then lit " or null" else []

/-! ## Directories of users -/

/-- The directory of a user: the one who runs the shell for an empty name. -/
def homeOf (name : Text) : Act (Option Text) := do
  if name = [] then see fun s => s.lookUp? (lit "HOME")
  else
    let users ← (Program.inTree fun t here => (t.read here (lit "/etc/passwd")).toOption.getD [] : Program Text)
    let fields := (Text.pieces (· == '\n') users).map (Text.pieces (· == ':'))
    return (fields.find? fun f => f.head? = some name).bind (·[5]?)

/-- Unquoted text with its tildes replaced; `start` tells whether one may stand at its start, and `last` whether
nothing follows it. The first argument bounds its length. -/
def withHomes (m : Mode) (plain : Text → Run) (last : Bool) : Nat → (start : Bool) → Text → Act (List Run)
  | 0, _, t => return [plain t]
  | k + 1, start, t => do
    let stops (c : Char) : Bool := c == '/' || (m.colons && c == ':')
    if start ∧ t.head? = some '~' then
      let name := (t.drop 1).takeWhile (!stops ·)
      let rest := t.drop (name.length + 1)
      let home ← if rest = [] ∧ !last then pure none else homeOf name
      match home with
      | some h => return { text := Marked.ofText true h } :: (← withHomes m plain last k false rest)
      | none => return plain ('~' :: name) :: (← withHomes m plain last k false rest)
    else if !m.colons ∨ ':' ∉ t then return [plain t]
    else
      let before := t.takeWhile (· != ':')
      return plain (before ++ [':']) :: (← withHomes m plain last k true (t.drop (before.length + 1)))

/-! ## Expressions -/

/-- The value of an arithmetic expression. -/
def calculate (expression : Text) : Act Text := do
  let fail (f : ExpressionFault) : Act Int := abort (f.message expression)
  let n ← (Expression.read expression).value (fun x => see fun s => (s.lookUp? x).getD [])
    (fun x n => setVariable x (Text.ofInt n)) fail
  return Text.ofInt n

/-! ## Pieces -/

/-- The output of commands as a value: without the line ends at its end. -/
def outputText (t : Text) : Text := ((t.filter (· != '\x00')).reverse.dropWhile (· == '\n')).reverse

/-- What is made of a parameter, where `expand` expands pieces. -/
def useParameter (expand : Mode → (start : Bool) → List Piece → Act (List Run)) (m : Mode) (name : Text) (use : Use) :
    Act (List Run) := do
  let s ← get
  let length := use matches .length
  let value := parameter? s (if length then {} else m) name
  let refuse (reason : Text) : Act (List Run) := abort (name ++ lit ": " ++ reason)
  let check (f : Text → Act (List Run)) : Act (List Run) :=
    match value with
    | none => if s.options.contains 'u' then refuse (unsetReason false) else f []
    | some v => f v
  match use with
  | .unknown => abort (lit "Bad substitution")
  | .value => check fun v => return [parameterRun s m name v]
  | .length => check fun v => return [valueRun m (Text.ofNat v.length)]
  | .trim start longest ps => check fun v => do
    let p ← expand {} true ps
    return [parameterRun s m name (Pattern.trim start longest (Pattern.ofMarked (withEscapes (joined p))) v)]
  | .fallback kind orEmpty ps =>
    let present := value.any fun v => !orEmpty || v ≠ []
    match kind, present with
    | .replace, true | .word, false => expand { m with inner := true } true ps
    | .replace, false => return []
    | _, true => return [parameterRun s m name (value.getD [])]
    | .assign, false =>
      let v := Marked.text (joined (← expand {} true ps))
      setVariable name v
      let s ← get
      return [parameterRun s m name ((parameter? s m name).getD [])]
    | .fail, false =>
      let reason := Marked.text (joined (← expand {} true ps))
      refuse (if ps.isEmpty then unsetReason orEmpty else reason)

/-- The runs that pieces stand for, in which pieces stand inside one another at most so deep. The flag tells
whether a tilde may stand at the start. -/
def expandPieces (output : Output) : Nat → Mode → (start : Bool) → List Piece → Act (List Run)
  | 0, _, _, _ => return []
  | _ + 1, _, _, [] => return []
  | n + 1, m, start, p :: ps => do
    let runs ← match p with
      | .text true t => pure [({ text := Marked.ofText true t, marked := true } : Run)]
      | .text false t =>
        let plain (t : Text) : Run :=
          { text := Marked.ofText m.quoted t, cut := if m.inner ∧ !m.quoted then .separators else .nowhere }
        withHomes m plain ps.isEmpty (t.length + 1) start t
      | .quotes [.parameter ['@'] .value] =>
        if m.quoted then useParameter (expandPieces output n) m ['@'] .value
        else useParameter (expandPieces output n) { m with quoted := true } ['@'] .value
      | .quotes inside => do
        let runs ← expandPieces output n { m with quoted := true } false inside
        pure (Run.mark :: runs)
      | .parameter name use => useParameter (expandPieces output n) m name use
      | .output s => do
        let t ← output s
        pure [valueRun m (outputText t)]
      | .arithmetic inside => do
        let e := Marked.text (joined (← expandPieces output n {} false inside))
        pure [valueRun m (← calculate e)]
    return runs ++ (← expandPieces output n m false ps)

/-- The deepest that words stand inside one another, with their pieces one after another. -/
def maxNesting : Nat := 1000000

/-! ## Words -/

/-- The marked text that a word stands for where nothing is cut. -/
def expandMarked (output : Output) (w : Word) : Act Marked := do
  return joined (← expandPieces output maxNesting {} true w)

/-- The text that a word stands for where nothing is cut. -/
def expandWhole (output : Output) (w : Word) : Act Text := do return Marked.text (← expandMarked output w)

/-- The text that a document stands for. -/
def expandDocument (output : Output) (w : Word) : Act Text := do
  return Marked.text (joined (← expandPieces output maxNesting { quoted := true } false w))

/-- The text that a value in an assignment stands for. -/
def expandValue (output : Output) (w : Word) : Act Text := do
  return Marked.text (joined (← expandPieces output maxNesting { colons := true } true w))

/-- The arguments that a word stands for. -/
def expandFields (output : Output) (w : Word) : Act (List Text) := do
  let runs ← expandPieces output maxNesting { full := true } true w
  let fields := fieldsOf (separators (← get)) runs
  if ← has 'f' then return fields.map Marked.text
  let paths ← (Program.inTree fun t here => fields.map fun m => argumentsOf t here m : Program (List (List Text)))
  return paths.flatten

/-- The arguments that words stand for. -/
def expandAll (output : Output) : List Word → Act (List Text)
  | [] => return []
  | w :: ws => do
    let arguments ← expandFields output w
    return arguments ++ (← expandAll output ws)

/-- The arguments that words of a command stand for, where those that are assignments are not cut if
`declares`. -/
def expandArguments (output : Output) (declares : Bool) : List Word → Act (List Text)
  | [] => return []
  | w :: ws => do
    let arguments ← match if declares then assignment? w else none with
      | some (name, value) => do pure [name ++ '=' :: (← expandValue output value)]
      | none => expandFields output w
    return arguments ++ (← expandArguments output declares ws)

end Buildfile.Shell
