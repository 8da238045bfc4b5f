import Buildfile.Workspace.Pattern
import Buildfile.Workspace.Regex.Reader
import Buildfile.Workspace.Utility.Fields
/-!
# Searching

`grep` shows the lines of files in which something is found, or says only where or how often it is found.
-/

namespace Buildfile.Utility

/-! ## What is looked for -/

/-- What is looked for in lines. -/
structure Sought where
  expressions : List Regex
  mode : Regex.Mode := {}
  /-- Whether it has to be a word, or a whole line. -/
  words : Bool := false
  whole : Bool := false
  deriving Inhabited

/-- The expression that describes one text. -/
def literal (t : Text) : Regex := t.foldl (fun r c => .seq r (.char c)) .empty

namespace Sought

/-- What one expression finds in a line from a position on: the longest of what comes first. A word must not go on
at either end, so shorter ones are tried. -/
def findOne (s : Sought) (r : Regex) (line : Text) : Nat → (start : Nat) → Option (Nat × Nat)
  | 0, _ => none
  | k + 1, start =>
    if s.whole then
      let ends := Regex.ends s.mode line r { rest := line }
      if start = 0 ∧ ends.any (·.index = line.length) then some (0, line.length) else none
    else
      match Regex.find? s.mode r line start with
      | none => none
      | some m =>
        if !s.words then some (m.first, m.last)
        else
          let isWord (i : Nat) : Bool := (line.drop i).head?.any Regex.isWordChar
          let free (a b : Nat) : Bool := !(0 < a && isWord (a - 1)) && !isWord b
          let lasts := ((Regex.ends s.mode line r (Regex.Cursor.skip m.first { rest := line })).map (·.index)).mergeSort
            fun a b => b ≤ a
          match lasts.find? fun b => m.first < b && free m.first b with
          | some b => some (m.first, b)
          | none => if free m.first m.first ∧ lasts.contains m.first then some (m.first, m.first) else
            if line.length ≤ m.first then none else findOne s r line k (m.first + 1)

/-- What is found in a line from a position on. -/
def find? (s : Sought) (line : Text) (start : Nat) : Option (Nat × Nat) :=
  (s.expressions.filterMap fun r => findOne s r line (line.length + 2) start).foldl (fun best m =>
    match best with
    | none => some m
    | some b => if m.1 < b.1 ∨ (m.1 = b.1 ∧ b.2 < m.2) then some m else best) none

/-- All that is found in a line, but for what is empty. -/
def findAll (s : Sought) (line : Text) : Nat → (start : Nat) → List (Nat × Nat)
  | 0, _ => []
  | k + 1, start =>
    match s.find? line start with
    | none => []
    | some (a, b) =>
      if a = b then (if line.length ≤ a then [] else findAll s line k (a + 1))
      else (a, b) :: findAll s line k b

end Sought

/-! ## How it is shown -/

/-- What is shown of the files that are searched. -/
structure Searching where
  sought : Sought
  invert : Bool := false
  count : Bool := false
  /-- Whether only the names of files are shown: those in which something is found, or the others. -/
  names : Option Bool := none
  quiet : Bool := false
  silent : Bool := false
  only : Bool := false
  numbers : Bool := false
  offsets : Bool := false
  titles : Bool := false
  text : Bool := false
  most : Option Nat := none
  before : Nat := 0
  after : Nat := 0
  last : Char := '\n'
  /-- What comes after a name of a file. -/
  nameEnd : Text := [':']
  nulls : Bool := false
  skipBinary : Bool := false
  deriving Inhabited

/-- A line of a file, with its number and its offset, and whether it is selected. -/
structure Looked where
  line : Text
  number : Nat
  offset : Nat
  selected : Bool
  deriving Inhabited

/-- The lines of a text, each looked at, up to the last one that may be selected and those after it. -/
def Searching.look (s : Searching) (t : Text) : List Looked :=
  let step (acc : List Looked × Nat × Nat × Nat) (l : Text) : List Looked × Nat × Nat × Nat :=
    let (out, number, offset, found) := acc
    let chars := Octets.decoded l
    let selected : Bool := s.most.all (found < ·) && ((s.sought.find? chars 0).isSome != s.invert)
    ({ line := l, number, offset, selected } :: out, number + 1, offset + l.length + 1, if selected then found + 1 else found)
  ((bareLines s.last t).foldl step ([], 1, 0, 0)).1.reverse

/-- What comes before a line. -/
def Searching.lead (s : Searching) (file : Text) (l : Looked) (mark : Char) : Text :=
  (if s.titles then file ++ (if s.nulls then ['\x00'] else [mark]) else []) ++
    (if s.numbers then Text.ofNat l.number ++ [mark] else []) ++
    if s.offsets then Text.ofNat l.offset ++ [mark] else []

/-- What is shown of lines with those around them; `shownTo` is the number of the last line that has been shown,
and zero if there is none. -/
def Searching.withContext (s : Searching) (file : Text) (all : List Looked) : Text :=
  let marked := all.filter fun l =>
    all.any fun m => m.selected && l.number ≤ m.number + s.after && m.number ≤ l.number + s.before
  let grouped : Bool := 0 < s.before + s.after
  (marked.foldl (fun (out, previous) l =>
    let gap : Text := if grouped ∧ previous ≠ 0 ∧ previous + 1 < l.number then lit "--\n" else []
    (out ++ gap ++ s.lead file l (if l.selected then ':' else '-') ++ l.line ++ [s.last], l.number)) (([] : Text), 0)).1

/-- What is found in selected lines, each on a line of its own. -/
def Searching.parts (s : Searching) (file : Text) (all : List Looked) : Text :=
  (all.filter (·.selected)).flatMap fun l =>
    if s.invert then []
    else
      let chars := Octets.decoded l.line
      (s.sought.findAll chars (chars.length + 2) 0).flatMap fun (a, b) =>
        let offset := (Octets.encoded (chars.take a)).length
        s.lead file { l with offset := l.offset + offset } ':' ++ Octets.encoded ((chars.take b).drop a) ++ [s.last]

/-- Whether some bytes are no text. -/
def isBinary (t : Text) : Bool := t.contains '\x00'

/-- What is shown of a file, and whether something is selected in it. -/
def Searching.report (s : Searching) (file : Text) (t : Text) : Text × Bool :=
  if s.most = some 0 then ([], false)
  else
    let binary : Bool := !s.text && s.last = '\n' && isBinary t
    let all := s.look t
    let count := (all.filter (·.selected)).length
    let found : Bool := 0 < count
    if s.skipBinary ∧ binary then ([], false)
    else if s.quiet then ([], found)
    else if let some wanted := s.names then
      (if found = wanted then file ++ [if s.nulls then '\x00' else '\n'] else [], found = wanted)
    else if s.count then
      ((if s.titles then file ++ (if s.nulls then ['\x00'] else [':']) else []) ++ Text.ofNat count ++ ['\n'], found)
    else
      let broken (l : Looked) : Bool := !s.text && (Octets.characters l.line).any (·.2.isNone)
      let bad := binary || all.any fun l => l.selected && broken l
      if found ∧ bad then
        let fine := if binary then [] else (all.takeWhile fun l => !(l.selected && broken l))
        let shown := if s.only then s.parts file fine else s.withContext file fine
        (shown ++ lit "grep: " ++ file ++ lit ": binary file matches\n", true)
      else (if s.only then s.parts file all else s.withContext file all, found)

/-! ## Files -/

/-- All files below a directory, at most so many levels deep, by paths after one. -/
def filesBelow (t : Tree) : Nat → Place → Text → List Text
  | 0, _, _ => []
  | k + 1, p, path =>
    (t.children p).flatMap fun c =>
      let below := if path = [] then c else Path.join path c
      match t.child? p c with
      | some q =>
        match (t.at? q).map Node.content with
        | some (.directory _ _) => filesBelow t k q below
        | some (.file _) | some (.program _) => [below]
        | _ => []
      | none => []

/-- Searches a file; the result says whether something was selected, and whether something went wrong. -/
def Searching.file (s : Searching) (name operand : Text) : Program (Bool × Bool) := do
  let shownName := if operand = ['-'] then lit "(standard input)" else operand
  match ← readOperand operand with
  | .error e =>
    if !s.silent then complainOf name operand e
    return (false, true)
  | .ok t =>
    let (out, found) := s.report shownName t
    put name out 2
    return (found, false)

/-- Searches files one after another. -/
def Searching.files (s : Searching) (name : Text) : List Text → Program (Bool × Bool)
  | [] => return (false, false)
  | f :: rest => do
    let (found, bad) ← s.file name f
    if s.quiet ∧ found then return (true, bad)
    let (others, worse) ← s.files name rest
    return (found || others, bad || worse)

/-! ## Patterns -/

/-- The characters that mean something after a backslash, or need one. -/
def knownEscapes : Text := lit "\\^$123456789`'<>bB?*+{|().sSwW[]}n"

/-- The complaints about backslashes that mean nothing in a pattern of a bounded length. -/
def strayBackslashes : Nat → Text → List Text
  | 0, _ | _, [] => []
  | k + 1, '\\' :: c :: t =>
    if c ∈ knownEscapes then strayBackslashes k t
    else
      (if Floating.isSpace c then lit "stray \\ before white space"
        else if c.toNat < 32 then lit "stray \\ before unprintable character"
        else lit "stray \\ before " ++ Octets.ofText [c]) :: strayBackslashes k t
  | k + 1, '[' :: t => strayBackslashes k ((t.drop 1).dropWhile (· ≠ ']'))
  | k + 1, _ :: t => strayBackslashes k t

/-- The usage of `grep`. -/
def grepUsage (name : Text) : Program Int := do
  tell (lit "Usage: " ++ name ++ lit " [OPTION]... PATTERNS [FILE]...")
  hint name
  return 2

/-- The options of `grep`. -/
def grepOptions : List Known :=
  [flag 'E' (lit "extended-regexp"), flag 'F' (lit "fixed-strings"), flag 'G' (lit "basic-regexp"), flag 'P' (lit "perl-regexp"),
   valued 'e' (lit "regexp"), valued 'f' (lit "file"), flag 'i' (lit "ignore-case"), flag 'y', named (lit "no-ignore-case"),
   flag 'w' (lit "word-regexp"), flag 'x' (lit "line-regexp"), flag 'z' (lit "null-data"), flag 's' (lit "no-messages"),
   flag 'v' (lit "invert-match"), valued 'm' (lit "max-count"), flag 'b' (lit "byte-offset"), flag 'n' (lit "line-number"),
   named (lit "line-buffered"), flag 'H' (lit "with-filename"), flag 'h' (lit "no-filename"), named (lit "label") .value,
   flag 'o' (lit "only-matching"), flag 'q' (lit "quiet"), named (lit "silent"), named (lit "binary-files") .value, flag 'a' (lit "text"),
   flag 'I', valued 'd' (lit "directories"), valued 'D' (lit "devices"), flag 'r' (lit "recursive"),
   flag 'R' (lit "dereference-recursive"), named (lit "include") .value, named (lit "exclude") .value,
   named (lit "exclude-from") .value, named (lit "exclude-dir") .value, flag 'L' (lit "files-without-match"),
   flag 'l' (lit "files-with-matches"), flag 'c' (lit "count"), flag 'T' (lit "initial-tab"), flag 'Z' (lit "null"),
   valued 'B' (lit "before-context"), valued 'A' (lit "after-context"), valued 'C' (lit "context"),
   named (lit "color") .optional, named (lit "colour") .optional, flag 'U' (lit "binary"), flag 'u']

/-- Shows the lines of files in which something is found. -/
def grep : Utility := fun name args => do
  let args := args.map fun a =>
    if a.length > 1 ∧ a.head? = some '-' ∧ (a.drop 1).all Char.isDigit then lit "-C" ++ a.drop 1 else a
  let (given, operands) ← match parse (grepOptions ++ commonOptions) args with
    | .ok _ => options name grepOptions args true 2
    | .error f => do
      complain name f.message
      discard <| grepUsage name
      Program.exit 2
  let has (c : Char) : Bool := hasLetter given c
  let fromFiles ← (given.filter (·.key = ['f'])).mapM fun g => do
    match ← readOperand (g.value.getD []) with
    | .ok t => return bareLines '\n' t
    | .error e =>
      complainOf name (g.value.getD []) e
      Program.exit 2
  let direct := (given.filter (·.key = ['e'])).flatMap fun g => Text.pieces (· == '\n') (g.value.getD [])
  let given? : Bool := (given.any fun g => g.key = ['e'] || g.key = ['f'])
  let (patterns, files) ← if given? then pure (direct ++ fromFiles.flatten, operands)
    else match operands with
      | [] => do
        discard <| grepUsage name
        Program.exit 2
      | p :: rest => pure (Text.pieces (· == '\n') p, rest)
  let number (c : Char) (what : String) : Program (Option Nat) := do
    match value? given [c] with
    | none => return none
    | some v =>
      match decimal? v with
      | some n => return some n
      | none =>
        if c = 'm' then complain name (lit what) else complain name (v ++ lit what)
        Program.exit 2
  let most ← number 'm' "invalid max count"
  let context ← number 'C' ": invalid context length argument"
  let before ← number 'B' ": invalid context length argument"
  let after ← number 'A' ": invalid context length argument"
  let kind := ((lastOf? given [['E'], ['F'], ['G'], ['P']]).map Given.key).getD ['G']
  let extended : Bool := kind = ['E'] ∨ kind = ['P'] ∨ (kind = ['G'] ∧ name = lit "egrep")
  let ignoreCase : Bool := match (lastOf? given [['i'], ['y'], lit "no-ignore-case"]).map Given.key with
    | some k => k ≠ lit "no-ignore-case"
    | none => false
  if kind ≠ ['F'] then
    for p in patterns do
      for w in strayBackslashes (p.length + 1) p do
        complain name (lit "warning: " ++ w)
  let expressions ← patterns.mapM fun p => do
    let chars := Octets.decoded p
    if kind = ['F'] then return literal chars
    match Regex.read (if extended then .extended else .basic) chars with
    | .ok (r, _) =>
      if r.hasBareClass then
        complain name Regex.bareClassMessage
        Program.exit 2
      return r
    | .error f =>
      complain name f.message
      Program.exit 2
  let recursive := has 'r' || has 'R'
  let globs (key : String) : List Pattern := (given.filter (·.key = lit key)).map fun g => Pattern.ofText (g.value.getD [])
  let included := globs "include"
  let excluded := globs "exclude"
  let passes (f : Text) : Bool :=
    (included = [] || included.any (Pattern.covers · (Path.base f))) && !(excluded.any (Pattern.covers · (Path.base f)))
  let operandFiles := if files = [] then (if recursive then [['.']] else [['-']]) else files
  let all ← operandFiles.mapM fun f => do
    if recursive ∧ f ≠ ['-'] then
      match ← Program.inTree fun t here => (t.directoryOf here f).toOption.map fun p =>
          filesBelow t 1000 p (if files = [] then [] else f) with
      | some fs => return fs.filter passes
      | none => return [f]
    else return [f]
  let all := all.flatten
  let titles : Bool := match (lastOf? given [['H'], ['h']]).map Given.key with
    | some k => k = ['H']
    | none => 1 < files.length ∨ recursive
  let s : Searching :=
    { sought := { expressions, mode := { ignoreCase }, words := has 'w', whole := has 'x' }
      invert := has 'v', count := has 'c'
      names := match (lastOf? given [['l'], ['L']]).map Given.key with
        | some k => some (k = ['l'])
        | none => none
      quiet := has 'q' || Utility.has given (lit "silent"), silent := has 's', only := has 'o', numbers := has 'n', offsets := has 'b'
      titles, text := has 'a' || value? given (lit "binary-files") = some (lit "text"), most
      before := (before.orElse fun _ => context).getD 0, after := (after.orElse fun _ => context).getD 0
      last := if has 'z' then '\x00' else '\n', nulls := has 'Z', skipBinary := has 'I' }
  let (found, bad) ← s.files name all
  return if s.quiet ∧ found then 0 else if bad then 2 else if found then 0 else 1

/-- Searches with extended expressions. -/
def egrep : Utility := fun name args => do
  complain name (lit "warning: egrep is obsolescent; using grep -E")
  grep (lit "grep") (lit "-E" :: args)

/-- Searches for texts as they are. -/
def fgrep : Utility := fun name args => do
  complain name (lit "warning: fgrep is obsolescent; using grep -F")
  grep (lit "grep") (lit "-F" :: args)

end Buildfile.Utility
