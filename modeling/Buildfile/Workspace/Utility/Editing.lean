import Buildfile.Workspace.Canonical
import Buildfile.Workspace.Launch
import Buildfile.Workspace.Utility.Editing.Reader
import Buildfile.Workspace.Utility.Reading
/-!
# Editing streams

`sed` carries out a script for every line of its input: the line is the text at work, which commands look at, change and
print, and there is a second text that is kept from line to line. Lines are joined to the text at work if a command asks
for more of them.

An input that does not end with a line end makes a last line without one, and it is printed in the same way; the line
end follows if something else comes after it.
-/

namespace Buildfile.Editing

open Utility

/-! ## What the editor works with -/

/-- How an editor works. -/
structure Edition where
  script : Script
  quiet : Bool := false
  /-- Whether every input has lines of its own. -/
  separate : Bool := false
  /-- Whether files are changed, and the suffix of what is kept of them. -/
  inPlace : Option Text := none
  followsLinks : Bool := false
  posix : Bool := false
  /-- The end of a line. -/
  last : Char := '\n'
  width : Nat := 70
  name : Text
  /-- The place that faults in the course of the work are said to be at. -/
  place : Text := []
  deriving Inhabited

/-- How far a range of lines has come. -/
inductive Range where
  | idle
  /-- It has been entered, and goes up to a line if the line is known. -/
  | entered (last : Option Nat)
  | left
  deriving DecidableEq, Inhabited

/-- A text at work, and whether it has a line end. -/
structure Space where
  text : Text := []
  ended : Bool := true
  deriving DecidableEq, Inhabited

/-- What comes after a line. -/
inductive Queued where
  | text (t : Text)
  | file (name : Text)
  /-- A line as it has been read. -/
  | line (t : Text)
  deriving DecidableEq, Inhabited

/-- What an editor has before it. -/
structure Editor where
  files : List Text := []
  input : Option Input := none
  /-- What the input is called. -/
  inputName : Text := ['-']
  /-- What has been read of the input and not been used, and whether nothing comes after it. -/
  buffer : Text := []
  exhausted : Bool := false
  /-- Whether a file has been opened. -/
  begun : Bool := false
  number : Nat := 0
  here : Space := {}
  held : Space := {}
  /-- Whether something has been replaced in the line. -/
  replaced : Bool := false
  queue : List Queued := []
  ranges : Array Range := #[]
  sought : Option ((Regex × Nat) × Regex.Mode) := none
  /-- What has been printed and not been written, the latest first, and its length. -/
  output : List Text := []
  waiting : Nat := 0
  /-- What has been printed for the file that is changed, the latest first. -/
  edited : List Text := []
  /-- Whether what has been printed lacks a line end. -/
  unfinished : Bool := false
  /-- The files that are written to, their descriptors, and whether each lacks a line end. -/
  outlets : List (Text × Nat × Bool) := []
  /-- What is left of the files that are read line by line. -/
  readers : List (Text × Text) := []
  failed : Bool := false
  deriving Inhabited

/-- What an editor does. -/
abbrev Edit := StateT Editor Program

/-- Complains and ends, after what has been printed has been written. -/
def giveUp {α : Type} (x : Edition) (message : Text) (status : Int := 4) : Edit α := do
  (complain x.name message : Program Unit)
  discard <| (Program.write 1 (← get).output.reverse.flatten : Program (Except Errno Unit))
  (Program.exit status : Program α)

/-! ## Output -/

/-- How much is printed before it is written. -/
def outputBlock : Nat := 4096

/-- Writes what has been printed. -/
def flush (x : Edition) : Edit Unit := do
  let content := (← get).output.reverse.flatten
  modify fun e => { e with output := [], waiting := 0 }
  match ← (Program.write 1 content : Program (Except Errno Unit)) with
  | .ok () => return ()
  | .error e => giveUp x (lit "couldn't flush stdout: " ++ e.message)

/-- Prints octets to standard output. -/
def printOut (x : Edition) (t : Text) : Edit Unit := do
  modify fun e => { e with output := t :: e.output, waiting := e.waiting + t.length }
  if outputBlock ≤ (← get).waiting then flush x

/-- Prints octets: into the file that is changed, if one is. -/
def printRaw (x : Edition) (t : Text) : Edit Unit := do
  if x.inPlace.isSome ∧ (← get).input.isSome then modify fun e => { e with edited := t :: e.edited }
  else printOut x t

/-- Prints a line end that is lacking. -/
def finishLine (x : Edition) : Edit Unit := do
  if (← get).unfinished then
    modify fun e => { e with unfinished := false }
    printRaw x [x.last]

/-- Prints octets on lines of their own. -/
def printLines (x : Edition) (t : Text) : Edit Unit := do
  finishLine x
  printRaw x t

/-- Prints a text, with a line end if it has one. -/
def printText (x : Edition) (t : Text) (ended : Bool) : Edit Unit := do
  printLines x (Octets.encoded t ++ if ended then [x.last] else [])
  if !ended then modify fun e => { e with unfinished := true }

/-- Writes a text to a file that is written to. -/
def writeTo (x : Edition) (name t : Text) (ended : Bool) : Edit Unit := do
  let some (fd, unfinished) := (← get).outlets.lookup name | return ()
  let content := (if unfinished then [x.last] else []) ++ Octets.encoded t ++ if ended then [x.last] else []
  modify fun e => { e with outlets := (name, fd, !ended) :: e.outlets.filter (·.1 ≠ name) }
  if fd = 1 then printOut x content
  else
    match ← (Program.write fd content : Program (Except Errno Unit)) with
    | .ok () => return ()
    | .error e => giveUp x (lit "couldn't write " ++ Text.ofNat content.length ++ lit " items to " ++ name ++ lit ": " ++ e.message)

/-- Opens the files that are written to. -/
def openOutlets (x : Edition) : List Text → Edit Unit
  | [] => return ()
  | name :: rest => do
    let fd ← if name = lit "/dev/stdout" then pure 1
      else if name = lit "/dev/stderr" then pure 2
      else
        match ← (Program.openFile name (.write true) : Program (Except Errno Nat)) with
        | .ok fd => pure fd
        | .error e => giveUp x (lit "couldn't open file " ++ name ++ lit ": " ++ e.message)
    modify fun e => { e with outlets := (name, fd, false) :: e.outlets }
    openOutlets x rest

/-- Prints what has been queued. -/
def printQueue (x : Edition) : Edit Unit := do
  let queue := (← get).queue
  modify fun e => { e with queue := [] }
  for q in queue do
    match q with
    | .text t => printLines x t
    | .line t => printLines x t
    | .file name =>
      finishLine x
      if let .ok t ← (Program.readFile name : Program (Except Errno Text)) then printRaw x t

/-! ## Files that are changed -/

/-- The path at which what was in a file is kept. -/
def keptPath (suffix path : Text) : Text :=
  let base := Path.base path
  let name := if '*' ∈ suffix then suffix.flatMap fun c => if c = '*' then base else [c] else base ++ suffix
  if '/' ∈ name then name else path.take (path.length - base.length) ++ name

/-- Puts another file in the place of one, with the same permissions. -/
def replaceFile (x : Edition) (path suffix content : Text) : Edit Unit := do
  let target ← if x.followsLinks then
      (Program.inTree (fun t here =>
        match t.lookup here path with
        | .ok p => ((Canonical.path? t here .nothing path).toOption.getD path, (t.at? p).map (·.mode))
        | .error _ => (path, none)) : Program (Text × Option Nat))
    else (Program.inTree (fun t here => (path, (t.nodeOf here path).toOption.map (·.mode))) : Program (Text × Option Nat))
  let r ← (Program.onTree (fun t here _ now => do
    let t ← if suffix = [] then t.unlink here target.1 else t.rename here target.1 (keptPath suffix target.1)
    let (t, p) ← t.openFile here target.1 true (target.2.getD 0o644) now
    return (t.change p fun n => { n with content := .file content, mode := target.2.getD n.mode })) :
      Program (Except Errno Unit))
  if let .error e := r then giveUp x (lit "cannot rename " ++ path ++ lit ": " ++ e.message)

/-- Closes the input, and puts what has been printed into its place if files are changed. -/
def closeInput (x : Edition) : Edit Unit := do
  let some i := (← get).input | return ()
  (i.close : Program Unit)
  let content := (← get).edited.reverse.flatten
  modify fun e => { e with input := none, buffer := [], exhausted := false, edited := [] }
  if let some suffix := x.inPlace then replaceFile x i.name suffix content

/-! ## Input -/

/-- How much is read at once. -/
def inputBlock : Nat := 4096

/-- Opens the next input, if there is one. Those that cannot be opened are complained of. -/
def openNext (x : Edition) : Edit Bool := do
  match (← get).files with
  | [] => return false
  | name :: rest =>
    modify fun e => { e with files := rest }
    if x.separate ∧ (← get).begun then
      if x.inPlace.isNone then finishLine x
      modify fun e => { e with number := 0, ranges := #[], readers := [], unfinished := false }
    let opened : Except Errno Input ← if name = ['-'] ∧ x.inPlace.isNone then pure (.ok { name, fd := 0, own := false })
      else
        match ← (Program.openFile name .read : Program (Except Errno Nat)) with
        | .ok fd => pure (.ok { name, fd, own := true })
        | .error e => pure (.error e)
    match opened with
    | .error e =>
      (complain x.name (lit "can't read " ++ name ++ lit ": " ++ e.message) : Program Unit)
      modify fun e => { e with failed := true }
    | .ok i =>
      if x.inPlace.isSome then
        let regular ← (Program.inTree (fun t here => (t.nodeOf here name).toOption.any fun n => match n.content with
          | .file _ | .program _ => true
          | _ => false) : Program Bool)
        if !regular then giveUp x (lit "couldn't edit " ++ name ++ lit ": not a regular file")
      modify fun e => { e with input := some i, inputName := name, begun := true, buffer := [], exhausted := false }
    return true

/-- Reads more of the input. -/
def readMore (x : Edition) (i : Input) : Edit Unit := do
  match ← (Program.read i.fd inputBlock : Program (Except Errno Text)) with
  | .ok [] => modify fun e => { e with exhausted := true }
  | .ok b => modify fun e => { e with buffer := e.buffer ++ b }
  | .error e => giveUp x (lit "read error on " ++ (if i.own then i.name else lit "stdin") ++ lit ": " ++ e.message)

/-- Takes the next line with the lines after it left, opening inputs on the way. -/
def takeLine (x : Edition) : Nat → Edit (Option (Text × Bool))
  | 0 => return none
  | n + 1 => do
    let e ← get
    match e.input with
    | none => if ← openNext x then takeLine x n else return none
    | some i =>
      let line := e.buffer.takeWhile (· ≠ x.last)
      match e.buffer.drop line.length with
      | _ :: rest =>
        set { e with buffer := rest }
        return some (line, true)
      | [] =>
        if !e.exhausted then
          readMore x i
          takeLine x n
        else if line ≠ [] then
          set { e with buffer := [] }
          return some (line, false)
        else
          closeInput x
          takeLine x n

/-- Whether no line comes after those that have been taken, from this input or from another one. -/
def atEnd (x : Edition) : Nat → Edit Bool
  | 0 => return true
  | n + 1 => do
    let e ← get
    match e.input with
    | none => if x.separate then return true else if ← openNext x then atEnd x n else return true
    | some i =>
      if e.buffer ≠ [] then return false
      else if !e.exhausted then
        readMore x i
        atEnd x n
      else if x.separate then return true
      else
        closeInput x
        atEnd x n

/-- Whether the line is the last one. -/
def isLast (x : Edition) : Edit Bool := atEnd x Program.rounds

/-- Goes on to the next line, which is put after the text at work if `joins`. -/
def advance (x : Edition) (joins : Bool) : Edit Bool := do
  printQueue x
  match ← takeLine x Program.rounds with
  | none => return false
  | some (line, ended) =>
    modify fun e =>
      { e with
        number := e.number + 1
        replaced := false
        here := { text := (if joins then e.here.text else []) ++ Octets.decoded line, ended } }
    return true

/-! ## Which lines are selected -/

/-- What is found first in a text from a position on. An empty expression is the one that was looked for last. -/
def find (x : Edition) (s : Sought) (t : Text) (start : Nat) : Edit (Option Regex.Match) := do
  let wanted ← match s.expression with
    | some r => pure (r, s.mode)
    | none =>
      match (← get).sought with
      | some r => pure r
      | none => giveUp x (x.place ++ Fault.noFormerExpression.message) 1
  modify fun e => { e with sought := some wanted }
  return Regex.find? wanted.2 wanted.1.1 t start

/-- Whether an address selects the line. -/
def isAt (x : Edition) (a : Address) : Edit Bool := do
  let n := (← get).number
  match a with
  | .line m => return n = m
  | .every first step => return decide (first ≤ n) && (n - first) % step == 0
  | .last => isLast x
  | .found s => return (← find x s (← get).here.text 0).isSome
  | .after _ | .multiple _ => return false

/-- The last line of a range that starts at a line, if it is known. -/
def lastOf (n : Nat) : Address → Option Nat
  | .line m => some m
  | .after k => some (n + k)
  | .multiple k => some (if k = 0 then n else (n + k - 1) / k * k)
  | _ => none

/-- Whether a command with two addresses selects the line. -/
def isWithin (x : Edition) (i : Nat) (a b : Address) : Edit Bool := do
  let n := (← get).number
  let become (r : Range) : Edit Unit := modify fun e =>
    { e with ranges := (e.ranges ++ Array.replicate (i + 1 - e.ranges.size) Range.idle).set! i r }
  let range := ((← get).ranges[i]?).getD .idle
  let range : Range := if range = .idle ∧ a = .line 0 then .entered none else range
  match range with
  | .entered (some m) =>
    if m ≤ n then become .left
    return n ≤ m
  | .entered none =>
    if ← isAt x b then become .left else become (.entered none)
    return true
  | _ =>
    let starts ← match a with
      | .line m => pure (range = .idle && decide (m = n))
      | _ => isAt x a
    if !starts then return false
    match lastOf n b with
    | some m => become (if m ≤ n then .left else .entered (some m))
    | none => become (.entered none)
    return true

/-- Whether a command selects the line. -/
def isSelected (x : Edition) (i : Nat) (c : Command) : Edit Bool := do
  let selected ← match c.first, c.second with
    | none, _ => pure true
    | some a, none => isAt x a
    | some a, some b => isWithin x i a b
  return selected != c.negated

/-! ## Substitutions -/

/-- A text with what is found replaced, from a position on: what has been found so far, where the last thing ended, and
the text that has been put together, the latest part first. -/
def replaceFrom (x : Edition) (s : Substitution) (t : Text) :
    Nat → (start found : Nat) → (previous : Option Nat) → List Text → Edit (List Text × Bool)
  | 0, start, _, _, done => return (t.drop start :: done, false)
  | k + 1, start, found, previous, done => do
    match ← if t.length < start then pure none else find x s.sought t start with
    | none => return (t.drop start :: done, false)
    | some m =>
      let before := (t.drop start).take (m.first - start)
      if m.first = m.last ∧ previous = some m.first then
        replaceFrom x s t k (m.first + 1) found none ((t.drop m.first).take 1 :: before :: done)
      else
        let found := found + 1
        let wanted : Bool := s.from?.all (· ≤ found)
        let new := if wanted then fillIn (fun n => (m.groupText? t n).getD []) .asIs s.pieces else m.text t
        let next (start : Nat) (done : List Text) : Edit (List Text × Bool) :=
          if wanted ∧ !s.all then return (t.drop start :: done, true)
          else do
            let (done, more) ← replaceFrom x s t k start found (some m.last) done
            return (done, wanted || more)
        if m.first = m.last then next (m.last + 1) ((t.drop m.last).take 1 :: new :: before :: done)
        else next m.last (new :: before :: done)

/-- A text without a line end at its end. -/
def withoutEnd (x : Edition) (t : Text) : Text := if t.getLast? = some x.last then t.dropLast else t

/-- The output of a shell that carries out a text, after what has been printed has been written. -/
def outputOf (x : Edition) (script : Text) : Edit Text := do
  flush x
  (Program.outputOf script : Program Text)

/-- Carries out a substitution. -/
def substitute (x : Edition) (s : Substitution) : Edit Unit := do
  let e ← get
  let t := e.here.text
  let (parts, replaced) ← replaceFrom x s t (t.length + 2) 0 0 none []
  if !replaced then return ()
  let new := parts.reverse.flatten
  modify fun e => { e with replaced := true, here := { e.here with text := Octets.decoded (Octets.encoded new) } }
  if s.printsBefore then printText x (← get).here.text (← get).here.ended
  if s.evaluates then
    let output ← outputOf x (Octets.encoded (← get).here.text)
    modify fun e => { e with here := { e.here with text := Octets.decoded (withoutEnd x output) } }
  if s.printsAfter then printText x (← get).here.text (← get).here.ended
  if let some name := s.file then writeTo x name (← get).here.text (← get).here.ended

/-! ## Showing lines -/

/-- An octet as it is shown without doubt. -/
def shownOctet (c : Char) : Text :=
  match c with
  | '\\' => ['\\', '\\']
  | '\x07' => ['\\', 'a']
  | '\x08' => ['\\', 'b']
  | '\x0C' => ['\\', 'f']
  | '\n' => ['\\', 'n']
  | '\r' => ['\\', 'r']
  | '\t' => ['\\', 't']
  | '\x0B' => ['\\', 'v']
  | c =>
    if ' ' ≤ c ∧ c ≤ '~' then [c]
    else
      let digit (n : Nat) : Char := Char.ofNat ('0'.toNat + n % 8)
      ['\\', digit (c.toNat / 64), digit (c.toNat / 8), digit c.toNat]

/-- Octets shown in lines of a width, of which none has any if it is zero; the last one ends with a dollar sign. -/
def shown (width : Nat) (t : Text) : Text :=
  let step (acc : List Text × Nat) (c : Char) : List Text × Nat :=
    let s := shownOctet c
    if width ≠ 0 ∧ width - 1 < acc.2 + s.length then (s :: lit "\\\n" :: acc.1, s.length)
    else (s :: acc.1, acc.2 + s.length)
  (t.foldl step ([], 0)).1.reverse.flatten ++ lit "$\n"

/-! ## Commands -/

/-- How a script goes on. -/
inductive Course where
  /-- With a command. -/
  | command (i : Nat)
  /-- With the next line; the text at work is printed if `shows`. -/
  | cycle (shows : Bool)
  /-- With the first command and the same text. -/
  | again
  | quit (status : Nat)
  deriving DecidableEq, Inhabited

/-- The first line of a text, and the text after it if there is one. -/
def firstLine (x : Edition) (t : Text) : Text × Option Text :=
  let line := t.takeWhile (· ≠ x.last)
  (line, match t.drop line.length with
    | [] => none
    | _ :: rest => some rest)

/-- Reads a line of a file that is read line by line. -/
def lineOf (x : Edition) (name : Text) : Edit (Option Text) := do
  let content ← match (← get).readers.lookup name with
    | some t => pure t
    | none => pure ((← (Program.readFile name : Program (Except Errno Text))).toOption.getD [])
  let line := content.takeWhile (· ≠ x.last)
  let ending := (content.drop line.length).take 1
  modify fun e =>
    { e with readers := (name, content.drop (line.length + 1)) :: e.readers.filter (·.1 ≠ name) }
  return if content = [] then none else some (line ++ ending)

/-- Carries out a command with a number that selects the line. -/
def carryOut (x : Edition) (i : Nat) (c : Command) : Edit Course := do
  let e ← get
  let onward : Course := .command (i + 1)
  let work (t : Text) : Edit Course := do
    modify fun e => { e with here := { e.here with text := t } }
    return onward
  let queue (q : Queued) : Edit Course := do
    modify fun e => { e with queue := e.queue ++ [q] }
    return onward
  match c.action with
  | .openBlock _ | .closeBlock | .label => return onward
  | .branch .always l => return .command (x.script.place l)
  | .branch .replaced l =>
    if !e.replaced then return onward
    set { e with replaced := false }
    return .command (x.script.place l)
  | .branch .notReplaced l =>
    if !e.replaced then return .command (x.script.place l)
    set { e with replaced := false }
    return onward
  | .append t => queue (.text (Octets.encoded t))
  | .insert t =>
    printLines x (Octets.encoded t)
    return onward
  | .change t =>
    let inside : Bool := match e.ranges[i]? with
      | some (.entered _) => c.second.isSome
      | _ => false
    if !inside then printLines x (Octets.encoded t)
    set { ← get with here := { e.here with text := [] } }
    return .cycle false
  | .showNumber =>
    printLines x (Text.ofNat e.number ++ ['\n'])
    return onward
  | .showName =>
    printLines x (e.inputName ++ ['\n'])
    return onward
  | .delete => return .cycle false
  | .deleteFirst =>
    match (firstLine x e.here.text).2 with
    | none => return .cycle false
    | some rest =>
      discard <| work rest
      return .again
  | .execute t =>
    if t = [] then work (Octets.decoded (withoutEnd x (← outputOf x (Octets.encoded e.here.text))))
    else
      finishLine x
      printRaw x (← outputOf x (Octets.encoded t))
      return onward
  | .get =>
    set { e with here := e.held }
    return onward
  | .getMore => work (e.here.text ++ x.last :: e.held.text)
  | .hold =>
    set { e with held := e.here }
    return onward
  | .holdMore =>
    set { e with held := { e.held with text := e.held.text ++ x.last :: e.here.text } }
    return onward
  | .exchange =>
    set { e with here := e.held, held := e.here }
    return onward
  | .list width =>
    printLines x (shown (width.getD x.width) (Octets.encoded e.here.text))
    return onward
  | .next =>
    if ← isLast x then return .cycle (!x.posix)
    if !x.quiet then printText x e.here.text e.here.ended
    return if ← advance x false then onward else .cycle false
  | .nextMore =>
    if ← isLast x then return .cycle (!x.posix)
    modify fun e => { e with here := { e.here with text := e.here.text ++ [x.last] } }
    return if ← advance x true then onward else .cycle true
  | .print =>
    printText x e.here.text e.here.ended
    return onward
  | .printFirst =>
    let (line, rest) := firstLine x e.here.text
    printText x line (rest.isSome || e.here.ended)
    return onward
  | .quit status shows =>
    if shows then
      if !x.quiet then printText x e.here.text e.here.ended
      printQueue x
    return .quit status
  | .readFile name => queue (.file name)
  | .readLine name =>
    match ← lineOf x name with
    | some t => queue (.line t)
    | none => return onward
  | .substitute s =>
    substitute x s
    return onward
  | .write name =>
    writeTo x name e.here.text e.here.ended
    return onward
  | .writeFirst name =>
    let (line, rest) := firstLine x e.here.text
    writeTo x name line (rest.isSome || e.here.ended)
    return onward
  | .translate pairs => work (e.here.text.map fun c => (pairs.lookup c).getD c)
  | .empty => work []
  | .unsupported c => giveUp x (lit "INTERNAL ERROR: Bad cmd " ++ [c])

/-- Where a script goes on after a command that does not select the line. -/
def past (i : Nat) (c : Command) : Nat :=
  match c.action with
  | .openBlock n => n + 1
  | _ => i + 1

/-- Carries out a script from a command on, in at most so many steps. -/
def runFrom (x : Edition) : Nat → (i : Nat) → Edit Course
  | 0, _ => return .cycle true
  | n + 1, i => do
    match x.script.commands[i]? with
    | none => return .cycle true
    | some c =>
      if ← isSelected x i c then
        match ← carryOut x i c with
        | .command i => runFrom x n i
        | course => return course
      else runFrom x n (past i c)

/-- Carries out a script for every line, for at most so many of them. -/
def cycles (x : Edition) : Nat → (fresh : Bool) → Edit Int
  | 0, _ => return 0
  | n + 1, fresh => do
    if fresh then
      if !(← advance x false) then return 0
    match ← runFrom x Program.rounds 0 with
    | .quit status => return status
    | .again =>
      printQueue x
      cycles x n false
    | .cycle shows =>
      if shows ∧ !x.quiet then printText x (← get).here.text (← get).here.ended
      printQueue x
      cycles x n true
    | .command _ => cycles x n true

/-- Edits some inputs, and gives the status. -/
def edit (x : Edition) (files : List Text) : Program Int := do
  let all : Edit Int := do
    openOutlets x x.script.targets
    let status ← cycles x Program.rounds true
    let e ← get
    if let some i := e.input then (i.back e.buffer.length : Program Unit)
    closeInput x
    flush x
    return if (← get).failed then 2 else status
  let (status, _) ← all.run { files }
  return status

end Buildfile.Editing

namespace Buildfile.Utility

open Editing

/-- How `sed` is used. -/
def sedUsage (name : Text) : Text :=
  lit "Usage: " ++ name ++ lit " [OPTION]... " ++ '{' :: lit "script-only-if-no-other-script" ++ '}' :: lit " [input-file]...

  -n, --quiet, --silent
                 suppress automatic printing of pattern space
      --debug
                 annotate program execution
  -e script, --expression=script
                 add the script to the commands to be executed
  -f script-file, --file=script-file
                 add the contents of script-file to the commands to be executed
  --follow-symlinks
                 follow symlinks when processing in place
  -i[SUFFIX], --in-place[=SUFFIX]
                 edit files in place (makes backup if SUFFIX supplied)
  -l N, --line-length=N
                 specify the desired line-wrap length for the `l' command
  --posix
                 disable all GNU extensions.
  -E, -r, --regexp-extended
                 use extended regular expressions in the script
                 (for portability use POSIX -E).
  -s, --separate
                 consider files as separate rather than as a single,
                 continuous long stream.
      --sandbox
                 operate in sandbox mode (disable e/r/w commands).
  -u, --unbuffered
                 load minimal amounts of data from the input files and flush
                 the output buffers more often
  -z, --null-data
                 separate lines by NUL characters
      --help     display this help and exit
      --version  output version information and exit

If no -e, --expression, -f, or --file option is given, then the first
non-option argument is taken as the sed script to interpret.  All
remaining arguments are names of input files; if no input files are
specified, then the standard input is read.

"

/-- The options of `sed`. -/
def sedOptions : List Known :=
  [flag 'b' (lit "binary"), flag 's' (lit "separate"), flag 'n' (lit "quiet"), named (lit "silent"),
   flag 'r' (lit "regexp-extended"), flag 'E', flag 'z' (lit "null-data"), named (lit "zero-terminated"),
   flag 'u' (lit "unbuffered"), valued 'e' (lit "expression"), valued 'f' (lit "file"),
   { letter := some 'i', name := lit "in-place", takes := .optional }, valued 'l' (lit "line-length"),
   named (lit "follow-symlinks"), named (lit "posix"), named (lit "debug"), named (lit "sandbox"), named (lit "help"),
   named (lit "version")]

/-- The parts of a script that options hold, in order, each with where it is from and how it is read. Files are counted
among the arguments as nothing. -/
def scriptParts (name : Text) : Manner → (count : Nat) → List Given → Program (List (Origin × Manner × Text))
  | _, _, [] => return []
  | m, n, g :: rest => do
    let value := g.value.getD []
    if g.key = ['e'] then
      return (.argument (n + 1), m, value) :: (← scriptParts name m (n + 1) rest)
    else if g.key = ['f'] then
      match ← readOperand value with
      | .ok t => return (.file value, m, t) :: (← scriptParts name m n rest)
      | .error e =>
        complain name (lit "couldn't open file " ++ value ++ lit ": " ++ e.message)
        Program.exit 4
    else if g.key = ['r'] ∨ g.key = ['E'] then scriptParts name { m with extended := true } n rest
    else if g.key = lit "posix" then scriptParts name { m with posix := true } n rest
    else if g.key = lit "sandbox" then scriptParts name { m with sandbox := true } n rest
    else scriptParts name m n rest

/-- Edits streams. -/
def sed : Utility := fun name args => do
  let refuse : Program Unit := do
    discard <| Program.write 2 (sedUsage name)
    Program.exit 1
  let (given, operands) ← match parse sedOptions args with
    | .ok r => pure r
    | .error f => do
      complain name f.message
      refuse
      pure ([], [])
  if has given (lit "help") then
    put name (sedUsage name)
    Program.exit 0
  if has given (lit "version") then Program.exit 0
  let isPart (g : Given) : Bool := g.key = ['e'] || g.key = ['f']
  if !given.any isPart ∧ operands = [] then refuse
  let (given, files) := if given.any isPart then (given, operands)
    else (given ++ [{ key := ['e'], value := operands.head? }], operands.drop 1)
  let parts ← scriptParts name {} 0 given
  let reading : Read Script := do
    for (origin, manner, t) in parts do
      readPart origin manner t
    readEnd
  match reading.run {} with
  | .error c =>
    complain name c.message
    return c.status
  | .ok (script, r) =>
    let inPlace := (lastOf? given [['i']]).map fun g => g.value.getD []
    if inPlace.isSome ∧ files = [] then
      complain name (lit "no input files")
      return 4
    let width := ((value? given ['l']).map fun v => Floating.ofDigits 10 (v.takeWhile Char.isDigit)).getD 70
    edit
      { script, name, inPlace, width
        quiet := script.quiet || hasLetter given 'n' || has given (lit "silent")
        separate := hasLetter given 's' || inPlace.isSome
        followsLinks := has given (lit "follow-symlinks")
        posix := has given (lit "posix")
        last := if hasLetter given 'z' || has given (lit "zero-terminated") then '\x00' else '\n'
        place := r.origin.place 0 r.line } (inputsOf files)

end Buildfile.Utility
