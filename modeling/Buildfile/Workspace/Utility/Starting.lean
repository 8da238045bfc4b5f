import Buildfile.Workspace.Floating
import Buildfile.Workspace.Launch
import Buildfile.Workspace.Utility.Choice
/-!
# Starting programs

Utilities that become another program, or start programs of their own: in another environment, for a limited
time, or with arguments that they have read. They end with 127 if there is no such program, and with 126 if it
cannot be started.
-/

namespace Buildfile.Utility

/-- The status for a program that cannot be started. -/
def refusedStatus (e : Errno) : Int := if e = .noEntry then 127 else 126

/-! ## Nothing and the same again -/

/-- Succeeds. -/
def succeed : Utility := fun _ _ => return 0

/-- Fails. -/
def failing : Utility := fun _ _ => return 1

/-- Writes a block of output as long as somebody reads it. -/
def repeatBlock (name block : Text) : Nat → Program Int
  | 0 => return 0
  | n + 1 => do
    put name block
    repeatBlock name block n

/-- Writes the same line over and over. -/
def yes : Utility := fun name args => do
  let (_, words) ← options name [] args false
  let line := (if words = [] then ['y'] else [' '].intercalate words) ++ ['\n']
  repeatBlock name (List.replicate (max 1 (8192 / line.length)) line).flatten 1000000

/-! ## Environments -/

/-- An environment as lines. -/
def environmentLines (last : Text) (e : Environment) : Text := e.entries.flatMap fun v => v.1 ++ '=' :: v.2 ++ last

/-- Writes the variables of the environment, or some of them. -/
def printenv : Utility := fun name args => do
  let (given, names) ← options name [flag '0' (lit "null")] args false 2
  let environment := (← Program.task).environment
  let last : Text := if hasLetter given '0' then ['\x00'] else ['\n']
  if names = [] then
    put name (environmentLines last environment) 2
    return 0
  put name (names.flatMap fun n => ((environment.get? n).map (· ++ last)).getD []) 2
  return if names.all fun n => (environment.get? n).isSome then 0 else 1

/-- What the words of a text stand for: words, or the complaint about it. The state is the word that is being
read, if any, and the quote that it is in. -/
def splitWords (environment : Environment) : Nat → Option Text → (quote : Option Char) → Text → Except Text (List Text)
  | 0, _, _, _ => .ok []
  | _ + 1, word, none, [] => .ok (word.map List.reverse).toList
  | _ + 1, _, some _, [] => .error (lit "no terminating quote in -S string")
  | k + 1, word, quote, c :: t =>
    let add (cs : Text) (t : Text) : Except Text (List Text) := splitWords environment k (some (cs.reverse ++ word.getD [])) quote t
    match c with
    | '\'' =>
      if quote = some '"' then add [c] t
      else splitWords environment k (some (word.getD [])) (if quote.isSome then none else some '\'') t
    | '"' =>
      if quote = some '\'' then add [c] t
      else splitWords environment k (some (word.getD [])) (if quote.isSome then none else some '"') t
    | '#' => if word.isNone ∧ quote.isNone then .ok [] else add [c] t
    | '$' =>
      if quote = some '\'' then add [c] t
      else
        let name := (t.drop 1).takeWhile fun c => c.isAlphanum || c == '_'
        if t.head? = some (Char.ofNat 123) ∧ (t.drop (1 + name.length)).head? = some (Char.ofNat 125) ∧ name ≠ [] ∧
            !(name.headD ' ').isDigit then
          match environment.get? name with
          | some v => add v (t.drop (2 + name.length))
          | none => splitWords environment k word quote (t.drop (2 + name.length))
        else .error (lit "only ${VARNAME} expansion is supported, error at: " ++ c :: t)
    | '\\' =>
      match t with
      | [] => .error (lit "invalid backslash at end of string in -S")
      | d :: t =>
        if quote = some '\'' then (if d = '\'' ∨ d = '\\' then add [d] t else add [c, d] t)
        else match d with
          | '_' => if quote.isSome then add [' '] t else (splitWords environment k none none t).map ((word.map List.reverse).toList ++ ·)
          | 'c' => if quote.isSome then .error (lit "'\\c' must not appear in double-quoted -S string") else .ok (word.map List.reverse).toList
          | 'f' => add ['\x0C'] t
          | 'n' => add ['\n'] t
          | 'r' => add ['\r'] t
          | 't' => add ['\t'] t
          | 'v' => add ['\x0B'] t
          | d =>
            if d ∈ ['"', '#', '$', '\'', '\\'] then add [d] t
            else .error (lit "invalid sequence '\\" ++ [d] ++ lit "' in -S")
    | c =>
      if quote.isNone ∧ Floating.isSpace c then
        (splitWords environment k none none t).map ((word.map List.reverse).toList ++ ·)
      else add [c] t

/-- The options of `env`. -/
def envOptions : List Known :=
  [flag 'i' (lit "ignore-environment"), flag '0' (lit "null"), valued 'u' (lit "unset"), valued 'C' (lit "chdir"),
   valued 'S' (lit "split-string"), flag 'v' (lit "debug"), named (lit "block-signal") .optional,
   named (lit "default-signal") .optional, named (lit "ignore-signal") .optional, named (lit "list-signal-handling")]

/-- The value of an argument that asks for another one to be split, if it is one, and whether it is the next
argument. -/
def splitRequest? (a : Text) : Option (Text × Option Text) :=
  if (lit "--split-string=").isPrefixOf a then some ([], some (a.drop 15))
  else if a = lit "--split-string" then some ([], none)
  else if a.head? = some '-' ∧ (a.drop 1).head? ≠ some '-' then
    let flags := (a.drop 1).takeWhile fun c => c ∈ ['i', 'v', '0']
    match a.drop (1 + flags.length) with
    | 'S' :: rest => some (if flags = [] then [] else '-' :: flags, if rest = [] then none else some rest)
    | _ => none
  else none

/-- Arguments in which those that ask for it are replaced by what they are split into. -/
def splitArguments (environment : Environment) : Nat → List Text → Except Text (List Text)
  | 0, args => .ok args
  | _, [] => .ok []
  | k + 1, a :: rest =>
    match splitRequest? a with
    | some (flags, some t) =>
      (splitWords environment (t.length + 1) none none t).bind fun ws =>
        splitArguments environment k ((if flags = [] then [] else [flags]) ++ ws ++ rest)
    | some (flags, none) =>
      match rest with
      | t :: rest =>
        (splitWords environment (t.length + 1) none none t).bind fun ws =>
          splitArguments environment k ((if flags = [] then [] else [flags]) ++ ws ++ rest)
      | [] => .ok (a :: rest)
    | none =>
      if a.head? = some '-' ∧ a ≠ ['-', '-'] ∧ a ≠ ['-'] then
        let valued : Bool := a ∈ [lit "-u", lit "-C", lit "--unset", lit "--chdir"]
        match rest with
        | b :: rest => if valued then (splitArguments environment k rest).map (a :: b :: ·) else (splitArguments environment k (b :: rest)).map (a :: ·)
        | [] => .ok [a]
      else .ok (a :: rest)

/-- Becomes a program in another environment, or writes the environment. -/
def env : Utility := fun name args => do
  let old := (← Program.task).environment
  let args ← match splitArguments old 64 args with
    | .ok args => pure args
    | .error m => do
      complain name m
      Program.exit 125
  let (given, operands) ← match parse (envOptions ++ commonOptions) args false with
    | .error (.unknownLetter c) => do
      complain name (OptionFault.unknownLetter c).message
      if Floating.isSpace c then complain name (lit "use -[v]S to pass options in shebang lines")
      hint name
      Program.exit 125
    | _ => options name envOptions args false 125
  let (dash, operands) := if operands.head? = some ['-'] then (true, operands.drop 1) else (false, operands)
  let cleared := dash || hasLetter given 'i'
  let refuse {α : Type} (what word : Text) : Program α := do
    complainWith name (lit "cannot " ++ what ++ [' ']) word (lit ": " ++ Errno.invalidArgument.message)
    Program.exit 125
  let environment ← (given.filter (·.key = ['u'])).foldlM (fun (e : Environment) g => do
    let n := g.value.getD []
    if n = [] ∨ '=' ∈ n then
      if cleared then return e
      refuse (lit "unset") n
    return e.erase n) (if cleared then {} else old)
  let settings := operands.takeWhile ('=' ∈ ·)
  let environment ← settings.foldlM (fun (e : Environment) a => do
    let (n, v) := Text.breakAt '=' a
    if n = [] then refuse (lit "set") n
    return e.set n v) environment
  let command := operands.drop settings.length
  if command ≠ [] ∧ hasLetter given '0' then misuse name (lit "cannot specify --null (-0) with command") 125
  let directory := value? given ['C']
  if directory.isSome ∧ command = [] then misuse name (lit "must specify command with --chdir (-C)") 125
  if command = [] then
    put name (environmentLines (if hasLetter given '0' then ['\x00'] else ['\n']) environment) 125
    return 0
  if let some d := directory then
    match ← Program.inTree fun t here => t.directoryOf here d with
    | .ok p => Program.change fun n s => s.changeTask n fun t => { t with here := p }
    | .error e => do
      complainOf name (lit "cannot change directory to " ++ Quoting.always d) e
      Program.exit 125
  let e ← Program.executeNamed command environment
  let word := command.headD []
  complainWith name [] word (lit ": " ++ e.message)
  if e = .noEntry ∧ word.any Floating.isSpace then complain name (lit "use -[v]S to pass options in shebang lines")
  return refusedStatus e

/-! ## Programs that go on as another one -/

/-- Becomes a program, or ends with a complaint. -/
def become (name : Text) (what : Text → Program Text) (command : List Text) : Program Int := do
  let e ← Program.executeNamed command (← Program.task).environment
  complainOf name (← what (command.headD [])) e
  return refusedStatus e

/-- Becomes a program that goes on after a terminal is gone. -/
def nohup : Utility := fun name args => do
  let (_, command) ← options name [] args false 125
  if command = [] then missingOperand name 125
  become name (fun c => return lit "failed to run command " ++ (← quoted c)) command

/-- Becomes a program that gives way to others. -/
def nice : Utility := fun name args => do
  let args := args.map fun a =>
    if a.length > 1 ∧ a.head? = some '-' ∧ ((a.drop 1).all Char.isDigit ∨ ((a.drop 1).head? = some '-' ∧ a.length > 2 ∧ (a.drop 2).all Char.isDigit)) then
      lit "-n" ++ a.drop 1 else a
  let (given, command) ← options name [valued 'n' (lit "adjustment")] args false 125
  if let some n := value? given ['n'] then
    let ds := if n.head? = some '-' ∨ n.head? = some '+' then n.drop 1 else n
    if ds = [] ∨ !ds.all Char.isDigit then misuseWith name (lit "invalid adjustment ") n [] 125
  if command = [] then
    if (value? given ['n']).isSome then misuse name (lit "a command must be given with an adjustment") 125
    put name (lit "0\n")
    return 0
  become name quoted command

/-! ## Time -/

/-- The nanoseconds of a time with a letter for its unit. -/
def duration? (t : Text) : Option Nat :=
  match Floating.read? .double t with
  | none => none
  | some (x, rest) =>
    let unit := match rest with
      | [] | ['s'] => some 1
      | ['m'] => some 60
      | ['h'] => some 3600
      | ['d'] => some 86400
      | _ => none
    match unit, x with
    | some u, .finite negative m e => if negative ∧ m ≠ 0 then none else some (u * Floating.inDecimals m e 9)
    | some _, .infinite false => some 1000000000000000000
    | _, _ => none

/-- Waits for some time. -/
def sleep : Utility := fun name args => do
  let (_, times) ← options name [] args
  if times = [] then missingOperand name
  let durations := times.map duration?
  for (t, d) in times.zip durations do
    if d.isNone then complainWith name (lit "invalid time interval ") t []
  if durations.any Option.isNone then
    hint name
    return 1
  Program.sleep ((durations.filterMap id).foldl (· + ·) 0)
  return 0

/-- The number of a signal that is named or numbered. -/
def signal? (t : Text) : Option Nat :=
  match decimal? t with
  | some n => if n ≤ 64 then some n else none
  | none =>
    let capital := t.map Char.toUpper
    let bare := if (lit "SIG").isPrefixOf capital then capital.drop 3 else capital
    (Signal.ofName? bare).map Signal.number

/-- Sets what the process does with a signal. -/
def handle (signal : Nat) (d : Option Disposition) : Program Unit := Program.change fun p s =>
  s.changeTask p fun t => { t with
    dispositions := match d with
      | some d => t.dispositions.set signal d
      | none => t.dispositions.erase signal }

/-- Waits until a child has ended or some time has passed, in at most so many rounds. -/
def waitUntil (child deadline : Nat) : Nat → Program (Option Int)
  | 0 => return none
  | k + 1 => do
    let ended ← Program.look fun p s => (s.collect p (some child)).bind fun r => r.1.toOption
    match ended with
    | some (_, status) => return some status
    | none =>
      let now ← Program.look fun _ s => s.clock
      if deadline ≤ now then return none
      Program.sleep (deadline - now)
      Program.change fun p s => s.changeTask p fun t => { t with pending := t.pending.filter (· ≠ System.childSignal) }
      waitUntil child deadline k

/-- Runs a program for a limited time. -/
def timeout : Utility := fun name args => do
  let (given, operands) ← options name
    [valued 'k' (lit "kill-after"), valued 's' (lit "signal"), flag 'v' (lit "verbose"), named (lit "preserve-status"),
     named (lit "foreground")] args false 125
  let read (t : Text) : Program Nat :=
    match duration? t with
    | some d => return d
    | none => misuseWith name (lit "invalid time interval ") t [] 125
  let killAfter ← match value? given ['k'] with
    | some t => pure (some (← read t))
    | none => pure none
  let signal ← match value? given ['s'] with
    | none => pure 15
    | some t =>
      match signal? t with
      | some n => pure n
      | none => do
        complainWith name [] t (lit ": invalid signal")
        hint name
        Program.exit 125
  match operands with
  | [] | [_] =>
    hint name
    return 125
  | time :: command =>
    let limit ← read time
    handle System.childSignal (some .caught)
    let child ← Program.fork do
      handle System.childSignal none
      become name (fun c => return lit "failed to run command " ++ (← quoted c)) command
    let start ← Program.look fun _ s => s.clock
    let deadline := if limit = 0 then start + 1000000000000000000 else start + limit
    let tellSignal (n : Nat) : Program Unit := do
      if hasLetter given 'v' then
        complainWith name (lit "sending signal " ++ ((Signal.ofNumber? n).map Signal.name).getD (Text.ofNat n) ++ lit " to command ")
          (command.headD []) []
    let result (status : Int) : Program Int := do
      if 0 ≤ status then return status
      discard <| Program.send (← Program.look fun p _ => p) (-status).toNat
      return 128 - status
    match ← waitUntil child deadline 1000 with
    | some status => result status
    | none =>
      tellSignal signal
      discard <| Program.send child signal
      discard <| Program.send child 18
      let grace := (killAfter.getD 0)
      let later ← Program.look fun _ s => s.clock + if killAfter.isSome ∧ grace ≠ 0 then grace else 1000000000000000000
      let (status, killed) ← match ← waitUntil child later 1000 with
        | some status => pure (status, (signal == 9 : Bool))
        | none => do
          tellSignal 9
          discard <| Program.send child 9
          pure ((← waitUntil child (later + 1000000000000000000) 1000).getD (-9), true)
      if has given (lit "preserve-status") ∨ (killed ∧ status = -9) then
        return if status < 0 then 128 - status else status
      return 124

/-! ## Arguments that are read -/

/-- The items of an input: between blanks, where quotes and backslashes keep blanks; or a complaint. The state
is the item that is being read, if any, and the quote that it is in. -/
def inputItems : Option Text → (quote : Option Char) → Text → Except Text (List Text)
  | word, none, [] => .ok (word.map List.reverse).toList
  | _, some q, [] =>
    .error (lit "unmatched " ++ (if q = '"' then lit "double" else lit "single") ++
      lit " quote; by default quotes are special to xargs unless you use the -0 option")
  | word, quote, c :: t =>
    match quote with
    | some q =>
      if c = q then inputItems (some (word.getD [])) none t
      else if c = '\n' then
        .error (lit "unmatched " ++ (if q = '"' then lit "double" else lit "single") ++
          lit " quote; by default quotes are special to xargs unless you use the -0 option")
      else inputItems (some (c :: word.getD [])) quote t
    | none =>
      if c = '\'' ∨ c = '"' then inputItems (some (word.getD [])) (some c) t
      else if c = '\\' then
        match t with
        | d :: t => inputItems (some (d :: word.getD [])) none t
        | [] => .ok (word.map List.reverse).toList
      else if c = ' ' ∨ c = '\t' ∨ c = '\n' then (inputItems none none t).map ((word.map List.reverse).toList ++ ·)
      else inputItems (some (c :: word.getD [])) none t

/-- Items that are the lines of an input, without blanks before them; quotes and backslashes keep characters. -/
def lineItems (t : Text) : Except Text (List Text) :=
  (lines t).foldlM (fun items line =>
    match line.dropWhile Floating.isSpace with
    | [] => .ok items
    | l =>
      (inputItems none none (l.flatMap fun c => if c = ' ' ∨ c = '\t' then ['\\', c] else [c])).map fun ws =>
        items ++ [[' '].intercalate ws]) []

/-- A text with every occurrence of a mark replaced. The first argument bounds its length. -/
def replaceAll (mark new : Text) : Nat → Text → Text
  | 0, t => t
  | _, [] => []
  | k + 1, c :: t =>
    if mark.isPrefixOf (c :: t) ∧ mark ≠ [] then new ++ replaceAll mark new k ((c :: t).drop mark.length)
    else c :: replaceAll mark new k t

/-- A list cut into parts of so many members. -/
def partsOf {α : Type} (n : Nat) : Nat → List α → List (List α)
  | 0, _ | _, [] => []
  | k + 1, as => as.take (max 1 n) :: partsOf n k (as.drop (max 1 n))

/-- The lines of an input as lists of items; a line that ends with a blank goes on with the next one. -/
def itemLines (most : Nat) (t : Text) : Except Text (List (List Text)) := do
  let joined := (lines t).foldl (fun (out, go) l =>
    let ends : Bool := l.getLast? = some ' ' ∨ l.getLast? = some '\t'
    match go, out with
    | true, last :: out => ((last ++ l) :: out, ends)
    | _, out => (l :: out, ends)) (([] : List Text), false)
  let items ← joined.1.reverse.mapM (inputItems none none)
  let items := items.filter (· ≠ [])
  return (partsOf most (items.length + 1) items).map List.flatten

/-- Starts a program and waits for it. -/
def runCommand (name : Text) (command : List Text) : Program Int := do
  let child ← Program.fork do
    match ← Program.openFile (lit "/dev/null") .read with
    | .ok fd =>
      Program.change fun p s => ((s.duplicate p fd 0).toOption.getD s).close p fd
    | .error _ => pure ()
    let e ← Program.executeNamed command (← Program.task).environment
    complainOf name (Quoting.ifNeeded (command.headD [])) e
    return refusedStatus e
  match ← Program.wait (some child) with
  | .ok (_, status) => return status
  | .error _ => return 1

/-- Starts a program for one list of arguments after another; the status says what went wrong. -/
def runAll (name : Text) (verbose : Bool) : List (List Text) → (status : Int) → Program Int
  | [], status => return status
  | command :: rest, status => do
    if verbose then tell ([' '].intercalate (command.map Quoting.ifNeeded))
    let result ← runCommand name command
    if result = 126 ∨ result = 127 then return result
    if result = 255 then
      complain name (command.headD [] ++ lit ": exited with status 255; aborting")
      return 124
    if result < 0 then
      complain name (command.headD [] ++ lit ": terminated by signal " ++ Text.ofInt (-result))
      return 125
    runAll name verbose rest (if result = 0 then status else 123)

/-- Starts a program with arguments that are read from standard input. -/
def xargs : Utility := fun name args => do
  let (given, command) ← options name
    [flag '0' (lit "null"), valued 'a' (lit "arg-file"), valued 'd' (lit "delimiter"), valued 'E',
     { letter := some 'e', name := lit "eof", takes := .optional }, valued 'I', { letter := some 'i', name := lit "replace", takes := .optional },
     valued 'L' (lit "max-lines"), { letter := some 'l', takes := .optional }, valued 'n' (lit "max-args"), valued 'P' (lit "max-procs"),
     flag 'p' (lit "interactive"), flag 'r' (lit "no-run-if-empty"), valued 's' (lit "max-chars"), flag 't' (lit "verbose"),
     flag 'x' (lit "exit"), flag 'o' (lit "open-tty"), named (lit "show-limits"), named (lit "process-slot-var") .value] args false
  let command := if command = [] then [lit "echo"] else command
  let number (c : Char) : Program (Option Nat) := do
    match value? given [c] with
    | none => return none
    | some v =>
      let n ← match decimal? v with
        | some n => pure n
        | none => misuse name (lit "invalid number \"" ++ v ++ lit "\" for -" ++ [c] ++ lit " option")
      if n = 0 ∧ c ≠ 'P' then
        misuse name (lit "value " ++ v ++ lit " for -" ++ [c] ++ lit " option should be >= 1")
      return some n
  let most ← number 'n'
  let mostLines ← number 'L'
  let mostLines := if hasLetter given 'l' then some (mostLines.getD 1) else mostLines
  discard <| number 'P'
  let input ← match value? given ['a'] with
    | none => Program.readAll 0
    | some f => Program.readFile f
  let text ← match input with
    | .ok t => pure t
    | .error e => do
      complain name (lit "Cannot open input file " ++ (← quoted ((value? given ['a']).getD [])) ++ lit ": " ++ e.message)
      Program.exit 1
  let delimiter := match (lastOf? given [['0'], ['d']]) with
    | some { key := ['0'], .. } => some '\x00'
    | some g =>
      match g.value.getD [] with
      | '\\' :: 'n' :: _ => some '\n'
      | '\\' :: 't' :: _ => some '\t'
      | '\\' :: '0' :: _ => some '\x00'
      | c :: _ => some c
      | [] => none
    | none => none
  let mark := match lastOf? given [['I'], ['i']] with
    | some g => some (g.value.getD (Char.ofNat 123 :: [Char.ofNat 125]))
    | none => none
  let delimited (d : Char) : List Text :=
    let ps := Text.pieces (· == d) text
    if ps.getLast? = some [] then ps.dropLast else ps
  let items : Except Text (List Text) := match delimiter with
    | some d => .ok (delimited d)
    | none => if mark.isSome then lineItems text else inputItems none none text
  let fail {α : Type} (m : Text) : Program α := do
    complain name m
    Program.exit 1
  let items ← match items with
    | .ok is => pure is
    | .error m => fail m
  let items := match value? given ['E'] with
    | some e => if e = [] then items else items.takeWhile (· ≠ e)
    | none => items
  let commands ← match mark, mostLines with
    | some m, _ => pure (items.map fun i => command.map fun a => replaceAll m i (a.length + 1) a)
    | none, some n =>
      if delimiter.isSome then pure ((partsOf n (items.length + 1) items).map (command ++ ·))
      else match itemLines n text with
        | .ok ls => pure (ls.map (command ++ ·))
        | .error m => fail m
    | none, none =>
      let parts := partsOf (most.getD 5000) (items.length + 1) items
      pure ((if parts = [] ∧ !hasLetter given 'r' then [[]] else parts).map (command ++ ·))
  runAll name (hasLetter given 't') commands 0

end Buildfile.Utility
