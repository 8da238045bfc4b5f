import Buildfile.Workspace.Shell.Builtin.Names
import Buildfile.Workspace.Shell.Builtin.Places
import Buildfile.Workspace.Shell.Builtin.Processes
import Buildfile.Workspace.Shell.Builtin.Test
import Buildfile.Workspace.Shell.Redirection
/-!
# Carrying out scripts

An action comes to a status. What it consists of is carried out by a function that this module takes as a parameter and
that `run` makes of itself, level by level; the number of levels bounds how deep actions stand inside one another.

A simple command is carried out in the order that is seen from outside: its first words are expanded up to the name of
the command, then the other words, the targets of its redirections, and the values of its assignments one after
another; only then it is looked up what the name stands for.
-/

namespace Buildfile.Shell

/-- Where an action stands. -/
structure Setting where
  /-- The documents of its script. -/
  documents : List Word := []
  /-- Whether somebody looks at how it ends. -/
  tested : Bool := false
  /-- Whether the shell ends after it. -/
  final : Bool := false
  deriving Inhabited

/-- How actions are carried out. -/
abbrev Runner := Setting → Action → Act Int

/-! ## Scripts -/

/-- Carries out the lines of a source, at most so many; the status is the one of the last line with an action, after
the one of the lines before. If `shows`, lines are shown as they are read for whoever wants to see them. -/
def carryOutLines (go : Runner) (x : Setting) (shows : Bool) : Nat → Source → (status : Int) → Act Int
  | 0, _, status => return status
  | n + 1, source, status => do
    let textOf (s : Source) : Text := (s.layers.getLast?.map Layer.text).getD []
    let shown (t : Text) : Act Unit := do if shows ∧ (← has 'v') then tell t
    match Reading.nextLine.run { source with aliases := (← get).aliases } with
    | .error e =>
      let lines := Text.pieces (· == '\n') (textOf source)
      shown (['\n'].intercalate (lines.take (e.line - source.line + 1)) ++
        if e.line - source.line + 1 < lines.length then ['\n'] else [])
      abortReading e.line e.message
    | .ok (none, after) =>
      shown ((textOf source).take ((textOf source).length - (textOf after).length))
      return status
    | .ok (some script, after) =>
      shown ((textOf source).take ((textOf source).length - (textOf after).length))
      modify fun s => { s with reached := after.line }
      let status ← match script with
        | .script (some a) documents => go { x with documents } a
        | .script none _ => pure status
      if (← get).skip.isSome then return status
      carryOutLines go x shows n after status

/-- Carries out a text from its first line. -/
def carryOutText (go : Runner) (x : Setting) (t : Text) : Act Int := do
  let reached := (← get).reached
  ensuring (carryOutLines go x false Program.rounds { layers := [{ text := t }] } 0)
    (modify fun s => { s with reached })

/-! ## Signals and ends -/

/-- Carries out what is to be done since certain signals have come, up to the first one after which something is left
undone. The status stays unless one is given for what is left undone. -/
def carryOutTraps (go : Runner) (status : Int) : List Nat → Act Unit
  | [] => return ()
  | n :: rest => do
    let s ← get
    if s.skip.isSome then modify fun s => { s with received := n :: rest ++ s.received }
    else
      if let some action := s.traps.get? n then
        discard <| carryOutText go {} action
        if (← get).skip ≠ some (.rest true) then setStatus status
      carryOutTraps go status rest

/-- Looks whether signals have come, and does what is to be done then. -/
def heed (go : Runner) : Act Unit := do
  takeSignals
  let s ← get
  if s.received ≠ [] then
    let status := s.saved.getD s.status
    set { s with received := [], saved := some status }
    carryOutTraps go status ((List.range 65).filter s.received.contains)
    modify fun t => { t with saved := s.saved }

/-- Leaves all that is being done, with a saved status if the shell was asked to end or if what was left undone says
so. -/
def leaveAll (asked : Bool) : Act Unit := modify fun s =>
  { s with
    status := if asked ∨ s.skip = some (.rest false) then s.saved.getD s.status else s.status
    saved := none, skip := none, loops := 0, tracing := false }

/-- Ends the shell after something has been done, and gives its status. What is to be done at the end is done. -/
def endShell (go : Runner) (a : Act Unit) : Act Int := do
  if let .error j ← outcome a then leaveAll (j = .asked)
  let s ← get
  match s.traps.get? 0 with
  | none => return s.status
  | some action =>
    set { s with saved := some s.status, skip := none, traps := s.traps.erase 0 }
    match ← outcome (carryOutText go {} action) with
    | .ok _ => leaveAll true
    | .error j => leaveAll (j = .asked)
    see Shell.status

/-- What a shell does up to its status, as a program. -/
def asProgram (a : Act Int) (s : Shell) : Program Int := do
  let (r, s) ← a.run.run s
  return match r with
    | .ok status => status
    | .error _ => s.status

/-- A copy of the shell that does something and ends. -/
def copyOf (go : Runner) (start : Start) (a : Act Unit) : Shell → Program Int :=
  asProgram (endShell go do
    becomeCopy start
    a)

/-! ## Output of scripts -/

/-- Reads up to the end from a descriptor, in at most so many blocks after those that have been read. -/
def readAllWithin (fd : Nat) : Nat → (blocks : List Text) → Act Text
  | 0, blocks => return blocks.reverse.flatten
  | n + 1, blocks => do
    match ← (Program.read fd Program.blockSize : Program (Except Errno Text)) with
    | .ok [] => return blocks.reverse.flatten
    | .ok b => readAllWithin fd n (b :: blocks)
    | .error .interrupted =>
      takeSignals
      readAllWithin fd n blocks
    | .error _ => return blocks.reverse.flatten

/-- The output of a script that a copy of the shell carries out. -/
def outputOf (go : Runner) : Output
  | .script none _ => return []
  | .script (some a) documents => do
    let (reader, writer) ← (Program.makePipe : Program (Nat × Nat))
    let job ← addJob
    startCopy (.waited job) (copyOf go (.waited job) do
      (Program.close reader : Program Unit)
      (Program.moveDescriptor writer 1 : Program Unit)
      discard <| go { documents, final := true } a)
    (Program.close writer : Program Unit)
    let t ← readAllWithin reader Program.rounds []
    (Program.close reader : Program Unit)
    let status ← awaitJob job
    modify fun s => { s with taken := status }
    return t

/-! ## The name of a command -/

/-- The first words of a command, as far as they are needed to know how the others are expanded. -/
structure Head where
  /-- The arguments before the name, which are only shown. -/
  skipped : List Text := []
  /-- The name and the arguments after it that have been expanded. -/
  arguments : List Text := []
  /-- The words that have not been expanded. -/
  words : List Word := []
  /-- Whether the first name is the one of a special builtin, if it is the one of a builtin at all. -/
  special : Option Bool := none
  /-- Whether the name is the one of a builtin. -/
  builtin : Bool := false
  /-- Whether functions do not count. -/
  bare : Bool := false
  /-- Where programs are looked for. -/
  path : Option Text := none
  deriving Inhabited

/-- Expands words until there is an argument. -/
def untilArgument (output : Output) : List Text → List Word → Act (List Text × List Word)
  | [], w :: ws => do untilArgument output (← expandFields output w) ws
  | arguments, ws => return (arguments, ws)

/-- The head after the options of `command`, where `read` is the number of the arguments that have been read, and at
most so many are; nothing comes if no command follows. -/
def afterCommand (output : Output) (h : Head) (path : Option Text) : Nat → (read : Nat) → Act (Head × Bool)
  | 0, _ => return (h, false)
  | n + 1, read => do
    let (rest, words) ← untilArgument output (h.arguments.drop read) h.words
    let h := { h with arguments := h.arguments.take read ++ rest, words }
    let found (h : Head) (read : Nat) : Head × Bool :=
      ({ h with skipped := h.skipped ++ h.arguments.take read, arguments := h.arguments.drop read, bare := true, path }, true)
    match rest with
    | [] => return (h, false)
    | ['-', '-'] :: rest => do
      let (rest, words) ← untilArgument output rest h.words
      let h := { h with arguments := h.arguments.take (read + 1) ++ rest, words }
      return if rest = [] then (h, false) else found h (read + 1)
    | ('-' :: c :: cs) :: _ =>
      if (c :: cs).all (· == 'p') then afterCommand output h (some standardPath) n (read + 1) else return (h, false)
    | _ => return found h read

/-- Looks at the name of a command, and at the one after `command` if that is the name, at most so often. -/
def examine (output : Output) : Nat → Head → Act Head
  | 0, h => return h
  | n + 1, h => do
    let name := h.arguments.headD []
    let isFunction := !h.bare && ((← get).functions.get? name).isSome
    if isFunction ∨ !isBuiltin name then return { h with builtin := false }
    let h := { h with builtin := true, special := some (h.special.getD (specialBuiltins.contains name)) }
    if name ≠ lit "command" then return h
    let (h, more) ← afterCommand output h h.path n 1
    if more then examine output n h else return { h with bare := false }

/-- The most names that are looked at. -/
def maxNames : Nat := 1000000

/-- The head of a command, with all its words expanded. -/
def headOf (output : Output) (words : List Word) : Act Head := do
  let (arguments, words) ← untilArgument output [] words
  if arguments = [] then return { builtin := true }
  let h ← examine output maxNames { arguments, words }
  let declares := h.builtin && declaringNames.contains (h.arguments.headD [])
  let others ← expandArguments output declares h.words
  return { h with arguments := h.arguments ++ others, words := [] }

/-! ## Builtins -/

/-- Leaves or goes on with loops: as many as an argument says. -/
def leaveLoops (skip : Nat → Skip) : Builtin := fun args => do
  let n ← match args with
    | [] => pure 1
    | a :: _ => numberOf a
  if n = 0 then abort (lit "Illegal number: " ++ args.headD [])
  let n := min n (← get).loops
  if 0 < n then modify fun s => { s with skip := some (skip n) }
  return 0

/-- Leaves a function or a file. -/
def leaveRest : Builtin := fun args => do
  let status ← match args with
    | [] => see Shell.status
    | a :: _ => do pure (Int.ofNat (← numberOf a))
  modify fun s => { s with skip := some (.rest (args ≠ [])) }
  return status

/-- Ends the shell. -/
def leaveShell : Builtin := fun args => do
  if let a :: _ := args then
    let n ← numberOf a
    modify fun s => { s with saved := some n }
  throw .asked

/-- The path of a file that is carried out: one with a slash, or one in a directory of `PATH`. -/
def fileToCarryOut (name : Text) : Act Text := do
  if '/' ∈ name then return name
  let isFile (t : Tree) (here : Place) (p : Text) : Bool :=
    match (t.nodeOf here p).map Node.content with
    | .ok (.file _) | .ok (.program _) => true
    | _ => false
  let paths := candidatePaths (← get).searchText name
  match ← (Program.inTree fun t here => paths.find? (isFile t here) : Program (Option Text)) with
  | some p => return p
  | none => abort (name ++ lit ": not found")

/-- Reads a file whole. -/
def readFile (path : Text) : Act Text := do
  match ← (Program.readFile path : Program (Except Errno Text)) with
  | .ok t => return t.filter (· != '\x00')
  | .error .isDirectory => return []
  | .error e => abort (lit "cannot open " ++ path ++ lit ": " ++ reasonText (lit "No such file") e)

/-- Forgets that the rest of a function or of a file is left undone. -/
def endRest : Act Unit := modify fun s =>
  match s.skip with
  | some (.rest _) => { s with skip := none }
  | _ => s

/-- Carries out a file. -/
def dot (go : Runner) : Builtin := fun args => do
  let (_, args) ← optionsOf [] args
  match args with
  | [] => return 0
  | name :: _ =>
    let path ← fileToCarryOut name
    let t ← readFile path
    modify fun s => { s with speaker := some path }
    let reached := (← get).reached
    let status ← ensuring (carryOutLines go {} true Program.rounds { layers := [{ text := t }] } 0)
      (modify fun s => { s with reached })
    endRest
    return status

/-- Becomes a program; without one, only the redirections matter. -/
def exec : Builtin := fun args => do
  let (_, args) ← optionsOf [] args
  if args = [] then return 0
  modify fun s => { s with options := s.options.filter fun c => c ∉ ['i', 'm'] }
  becomeProgram args (← get).searchText 0

/-- The builtins that need no script. -/
def builtins : List (Text × Builtin) :=
  [([':'], fun _ => return 0), (['['], test ['[']), (lit "alias", aliasing), (lit "bg", resume),
   (lit "break", leaveLoops .stop), (lit "cd", cd), (lit "chdir", cd), (lit "command", command),
   (lit "continue", leaveLoops .round), (lit "echo", echo), (lit "exec", exec), (lit "exit", leaveShell),
   (lit "export", exports), (lit "false", fun _ => return 1), (lit "fg", resume), (lit "getopts", getopts),
   (lit "hash", hash), (lit "jobs", listJobs), (lit "kill", kill), (lit "local", locals), (lit "printf", printf),
   (lit "pwd", pwd), (lit "read", read), (lit "readonly", readonly), (lit "return", leaveRest), (lit "set", settings),
   (lit "shift", shift), (lit "test", test (lit "test")), (lit "times", times), (lit "trap", trap),
   (lit "true", fun _ => return 0), (lit "type", typeOf), (lit "ulimit", ulimit), (lit "umask", umask),
   (lit "unalias", unalias), (lit "unset", unset), (lit "wait", wait)]

/-- What a builtin does. -/
def builtin (go : Runner) (x : Setting) (name : Text) : Builtin :=
  if name = lit "eval" then fun args =>
    if args = [] then return 0 else carryOutText go { tested := x.tested } ([' '].intercalate args)
  else if name = ['.'] then dot go
  else (builtins.lookup name).getD fun _ => return 0

/-- Writes what a builtin has shown; tells whether that was possible. -/
def flush : Act Bool := do
  let t := (← get).shown.reverse.flatten
  modify fun s => { s with shown := [] }
  let written ← (Program.write 1 t : Program (Except Errno Unit))
  return written.isOk

/-- Carries out a builtin; unless it is `special`, its faults only matter for its status. -/
def callBuiltin (go : Runner) (x : Setting) (special : Bool) (name : Text) (args : List Text) : Act Int := do
  let speaker := (← get).speaker
  modify fun s => { s with speaker := some name }
  let r ← outcome (builtin go x name args)
  let written ← flush
  if r.isOk ∧ !written then
    modify fun s => { s with speaker := some name }
    warn (name ++ lit ": I/O error")
  modify fun s => { s with speaker }
  match r with
  | .ok status =>
    let status : Int := if written then status else if status % 2 = 0 then status + 1 else status
    setStatus status
    return status
  | .error .fault => if special then throw .fault else see Shell.status
  | .error j => throw j

/-! ## Simple commands -/

/-- Carries out a function with parameters of its own. -/
def callFunction (go : Runner) (x : Setting) (f : Function) (args : List Text) : Act Int := do
  let s ← get
  set { s with parameters := args, optionIndex := 1, optionOffset := none, loops := 0 }
  let r ← outcome (go { documents := f.documents, tested := x.tested } f.body)
  modify fun t =>
    { t with
      parameters := s.parameters, optionIndex := s.optionIndex, optionOffset := s.optionOffset, loops := s.loops }
  endRest
  discard <| settle r
  see Shell.status

/-- Becomes a program, in a copy of the shell unless the shell ends anyway. -/
def callProgram (x : Setting) (arguments : List Text) (path : Text) (index : Nat) : Act Int := do
  let trapped ← hasTraps
  if x.final ∧ !trapped then becomeProgram arguments path index
  else
    let job ← addJob
    startCopy (.waited job) (asProgram (becomeProgram arguments path index))
    awaitJob job

/-- What stands before a command that is shown. -/
def traceStart (output : Output) : Act Text := do
  let t := ((← get).lookUp? (lit "PS4")).getD []
  match Reading.quotedText t with
  | .error e =>
    warn e.message
    return t
  | .ok w =>
    modify fun s => { s with tracing := true }
    let status := (← get).status
    let r ← outcome (expandDocument output w)
    modify fun s => { s with tracing := false }
    match r with
    | .ok t => return t
    | .error .fault =>
      setStatus status
      return t
    | .error j => throw j

/-- Shows a command before it is carried out, if that is wanted. -/
def trace (output : Output) (fd : Nat) (words : List Text) : Act Unit := do
  let s ← get
  if s.options.contains 'x' ∧ !s.tracing then
    let start ← traceStart output
    writeTo fd (start ++ [' '].intercalate words ++ ['\n'])

/-- Sets variables one after another, as variables of the command if `own`; gives what they are shown as. -/
def assignAll (output : Output) (own exported : Bool) : List Word → Act (List Text)
  | [] => return []
  | w :: ws => do
    match assignment? w with
    | none => assignAll output own exported ws
    | some (name, value) =>
      let v ← expandValue output value
      if own then ownVariable name (some v) true else changeVariable name (some v) { exported }
      return (name ++ '=' :: v) :: (← assignAll output own exported ws)

/-- Carries out a command whose words have been expanded. -/
def call (go : Runner) (x : Setting) (h : Head) : Act Int := do
  match h.arguments with
  | [] =>
    let status ← see Shell.taken
    setStatus status
    return status
  | name :: args =>
    let path := h.path.getD (← get).searchText
    let isFunction := !h.bare && ((← get).functions.get? name).isSome
    let meaning ← if h.builtin ∧ !isFunction then pure .builtin else meaningOf name h.bare h.path
    match meaning with
    | .builtin => callBuiltin go x (h.special = some true) name args
    | .function f => callFunction go x f args
    | .program index => callProgram x (name :: args) path (index.getD 0)
    | .unknown e =>
      warn (name ++ lit ": " ++ reasonText (lit "not found") e)
      setStatus 127
      return 127

/-- Carries out a simple command. -/
def simpleCommand (go : Runner) (x : Setting) (line : Nat) (assignments words : List Word) (rs : List Redirection) :
    Act Int := do
  let output := outputOf go
  modify fun s => { s with line, taken := 0 }
  let h ← headOf output words
  let special : Bool := h.special = some true
  let own : Bool := h.arguments ≠ [] && !special
  let executes : Bool := h.builtin && h.arguments.head? = some (lit "exec")
  let depth := (← get).kept.length
  if own then modify fun s => { s with kept := [] :: s.kept }
  let goals ← goalsOf output x.documents rs
  let refused : Act Int := do
    setStatus 2
    if special then throw .fault else return 2
  let status ← whileRedirected output executes goals (fun formerError => do
    let assigned ← assignAll output own (executes && 1 < h.arguments.length) assignments
    trace output formerError (assigned ++ h.skipped ++ h.arguments)
    call go x h) refused
  putBack depth
  return status

/-! ## Loops -/

/-- How a loop goes on after a part of a round. -/
inductive Course where
  /-- With the next part. -/
  | onward
  /-- With the next round. -/
  | again
  /-- Not at all; a status was given for what is left undone if `decided`. -/
  | away (decided : Bool)
  deriving DecidableEq, Inhabited

/-- How the present loop goes on; what is left undone now concerns the loops around it. -/
def course : Act Course := do
  let s ← get
  match s.skip with
  | none => return .onward
  | some (.stop n) =>
    set { s with skip := if n ≤ 1 then none else some (.stop (n - 1)) }
    return .away false
  | some (.round n) =>
    set { s with skip := if n ≤ 1 then none else some (.round (n - 1)) }
    return if n ≤ 1 then .again else .away false
  | some (.rest decided) => return .away decided

/-- Carries out at most so many rounds of a loop; `status` is the one of the last body. -/
def loopRounds (test body : Act Int) (succeeds : Bool) : Nat → (status : Int) → Act Int
  | 0, status => return status
  | n + 1, status => do
    let tested ← test
    match ← course with
    | .again => loopRounds test body succeeds n status
    | .away decided => return if decided then tested else status
    | .onward =>
      if (tested = 0) != succeeds then return status
      let status ← body
      match ← course with
      | .away _ => return status
      | _ => loopRounds test body succeeds n status

/-- Carries out a body for every value of a variable. -/
def forEachValue (name : Text) (body : Act Int) : List Text → (status : Int) → Act Int
  | [], status => return status
  | v :: vs, _ => do
    setVariable name v
    let status ← body
    match ← course with
    | .away _ => return status
    | _ => forEachValue name body vs status

/-- Carries out something as a loop. -/
def asLoop (a : Act Int) : Act Int := do
  modify fun s => { s with loops := s.loops + 1 }
  let status ← a
  modify fun s => { s with loops := s.loops - 1 }
  return status

/-! ## Choices -/

/-- Whether one of some patterns matches a text, tried one after another. -/
def anyCovers (output : Output) (subject : Text) : List Word → Act Bool
  | [] => return false
  | w :: ws => do
    let m ← expandMarked output w
    if Pattern.covers (Pattern.ofMarked (withEscapes m)) subject then return true
    anyCovers output subject ws

/-- The body of the first arm with a pattern that matches a text. -/
def chosenArm (output : Output) (subject : Text) : List Arm → Act (Option Action)
  | [] => return none
  | .arm patterns body :: arms => do
    if ← anyCovers output subject patterns then return body
    chosenArm output subject arms

/-! ## Copies of the shell -/

/-- Carries out something in a copy of the shell, or in the shell itself if that ends anyway. -/
def subshell (go : Runner) (x : Setting) (line : Nat) (background : Bool) (a : Action) (rs : List Redirection) :
    Act Int := do
  let output := outputOf go
  modify fun s => { s with line }
  let goals ← goalsOf output x.documents rs
  let inside : Act Unit := do
    let (_, done) ← redirectAll output false goals []
    settle done
    discard <| go { x with final := true, tested := x.tested && !background } a
    throw .finished
  let trapped ← hasTraps
  if !background ∧ x.final ∧ !trapped then
    inside
    return 0
  let job ← addJob
  let start : Start := if background then .background job true else .waited job
  startCopy start (copyOf go start inside)
  if background then return 0 else awaitJob job

/-- Starts actions that are joined by pipes, the first of which reads from `input` if that is a descriptor. -/
def startPiped (go : Runner) (x : Setting) (job : Nat) (background : Bool) : (first : Bool) → (input : Option Nat) →
    List Action → Act Unit
  | _, _, [] => return ()
  | first, input, a :: rest => do
    if let .simple _ _ (w :: _) _ := a then
      if let some name := Word.plain? w then
        if isName name then discard <| meaningOf name
    let pipe ← if rest = [] then pure none else some <$> (Program.makePipe : Program (Nat × Nat))
    let start : Start := if background then .background job first else .waited job
    startCopy start (copyOf go start do
      if let some (reader, _) := pipe then (Program.close reader : Program Unit)
      if let some fd := input then (Program.moveDescriptor fd 0 : Program Unit)
      if let some (_, writer) := pipe then (Program.moveDescriptor writer 1 : Program Unit)
      discard <| go { x with final := true } a)
    if let some fd := input then (Program.close fd : Program Unit)
    if let some (_, writer) := pipe then (Program.close writer : Program Unit)
    startPiped go x job background false (pipe.map (·.1)) rest

/-! ## Actions -/

/-- Carries out what an action consists of; `rounds` bounds the rounds of loops. It is told whether a failure ends a
strict shell. -/
def parts (go : Runner) (rounds : Nat) (x : Setting) : Action → Act (Int × Bool)
  | .simple line assignments words rs => do return (← simpleCommand go x line assignments words rs, true)
  | .redirected line a rs => do
    modify fun s => { s with line }
    let output := outputOf go
    let goals ← goalsOf output x.documents rs
    whileRedirected output false goals (fun _ => do return (← go { x with final := false } a, false)) (return (2, true))
  | .apart line a rs => do return (← subshell go x line false a rs, true)
  | .background line a rs => do return (← subshell go x line true a rs, true)
  | .piped background actions => do
    let job ← addJob
    startPiped go x job background true none actions
    let status ← if background then pure 0 else awaitJob job
    return (status, true)
  | .negated a => do
    let status ← go { x with tested := true, final := false } a
    if (← get).skip.isSome then return (status, false)
    return (if status = 0 then 1 else 0, false)
  | .sequence a b => do
    let status ← go { x with final := false } a
    if (← get).skip.isSome then return (status, false)
    return (← go x b, false)
  | .whenDone a b => do
    let status ← go { x with tested := true, final := false } a
    if status ≠ 0 ∨ (← get).skip.isSome then return (status, false)
    return (← go x b, false)
  | .whenFailed a b => do
    let status ← go { x with tested := true, final := false } a
    if status = 0 ∨ (← get).skip.isSome then return (status, false)
    return (← go x b, false)
  | .ifElse test yes no => do
    let status ← go { x with tested := true, final := false } test
    if (← get).skip.isSome then return (status, false)
    match if status = 0 then some yes else no with
    | some a => return (← go x a, false)
    | none => return (0, false)
  | .loop succeeds test body => do
    let inside := { x with final := false }
    let status ← asLoop (loopRounds (go { inside with tested := true } test) (go inside body) succeeds rounds 0)
    return (status, false)
  | .forEach line name words body => do
    modify fun s => { s with line }
    let values ← expandAll (outputOf go) words
    let status ← asLoop (forEachValue name (go { x with final := false } body) values 0)
    return (status, false)
  | .select line subject arms => do
    modify fun s => { s with line }
    let output := outputOf go
    let t ← expandWhole output subject
    match ← chosenArm output t arms with
    | some a => return (← go x a, false)
    | none => return (0, false)
  | .define name body => do
    let f : Function := { body, documents := x.documents }
    modify fun s => { s with functions := s.functions.set name f }
    return (0, false)

/-- Carries out an action; a shell that only reads does nothing. -/
def step (go : Runner) (rounds : Nat) : Runner := fun x a => do
  if ← has 'n' then return ← see Shell.status
  heed go
  let (status, strict) ← parts go rounds x a
  setStatus status
  heed go
  let s ← get
  if (strict ∧ s.options.contains 'e' ∧ !x.tested ∧ status ≠ 0) ∨ x.final then throw .finished
  return s.status

/-- Carries out an action in which actions stand inside one another so deep at most. -/
def run : (depth : Nat) → Runner
  | 0 => fun _ _ => return 0
  | n + 1 => step (run n) n

/-- The deepest that actions stand inside one another, and the most rounds of a loop. -/
def maxDepth : Nat := 1000000000

end Buildfile.Shell
