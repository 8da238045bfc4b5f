import Buildfile.Text.Columns
import Buildfile.Workspace.Utility.Choice
/-!
# Reading text

Utilities that show files or parts of them: all of it, its start, its end, its lines with numbers, or how much
there is of it.
-/

namespace Buildfile.Utility

/-! ## Inputs -/

/-- An input that has been opened: what it is called, its descriptor, and whether it has to be closed. -/
structure Input where
  name : Text
  fd : Nat
  own : Bool
  deriving Inhabited

/-- Opens an operand, or takes standard input for a dash. -/
def openInput (operand : Text) : Program (Except Errno Input) := do
  if operand = ['-'] then return .ok { name := operand, fd := 0, own := false }
  match ← Program.openFile operand .read with
  | .ok fd => return .ok { name := operand, fd, own := true }
  | .error e => return .error e

/-- Closes an input. -/
def Input.close (i : Input) : Program Unit := if i.own then Program.close i.fd else return ()

/-- Goes back so many bytes in an input, if it is a file. -/
def Input.back (i : Input) (n : Nat) : Program Unit := Program.change fun p s =>
  match s.opening? p i.fd with
  | some (k, o) =>
    match o.target with
    | .node _ => s.moveTo k (o.offset - n)
    | _ => s
  | none => s

/-- Operands, or standard input if there are none. -/
def inputsOf (operands : List Text) : List Text := if operands = [] then [['-']] else operands

/-! ## Whole files -/

/-- How lines are shown. -/
structure Showing where
  number : Bool := false
  numberFull : Bool := false
  squeeze : Bool := false
  ends : Bool := false
  tabs : Bool := false
  unprintable : Bool := false
  deriving Inhabited

/-- An octet of no more than seven bits that is shown after a mark. -/
def caret (c : Char) : Text :=
  if c.toNat < 32 then ['^', Char.ofNat (c.toNat + 64)] else if c.toNat = 127 then ['^', '?'] else [c]

/-- An octet as it is shown. -/
def Showing.octet (s : Showing) (c : Char) : Text :=
  if c = '\t' then (if s.tabs then ['^', 'I'] else [c])
  else if c = '\n' ∨ !s.unprintable then [c]
  else if c.toNat < 128 then caret c
  else ['M', '-'] ++ caret (Char.ofNat (c.toNat - 128))

/-- How far the lines have been shown: the number of the last one, whether one is unfinished, and how many empty
ones there were. -/
structure Shown where
  number : Nat := 0
  inside : Bool := false
  empty : Nat := 0
  deriving Inhabited

/-- A number at the right end of six columns, and a tab. -/
def lineNumber (n : Nat) : Text :=
  let ds := Text.ofNat n
  List.replicate (6 - ds.length) ' ' ++ ds ++ ['\t']

/-- Text as it is shown, the latest part first, after some that has been shown already. -/
def Showing.text (s : Showing) : Text → Shown → List Text → List Text × Shown
  | [], d, out => (out, d)
  | '\n' :: t, d, out =>
    if !d.inside ∧ s.squeeze ∧ 1 ≤ d.empty then Showing.text s t { d with empty := d.empty + 1 } out
    else
      let counted := !d.inside && s.number && !s.numberFull
      let d' : Shown := { number := if counted then d.number + 1 else d.number, inside := false, empty := if d.inside then 0 else d.empty + 1 }
      let before := if counted then lineNumber d'.number else []
      Showing.text s t d' ((before ++ (if s.ends then ['$'] else []) ++ ['\n']) :: out)
  | c :: t, d, out =>
    let starts := !d.inside && (s.number || s.numberFull)
    let d' : Shown := { number := if starts then d.number + 1 else d.number, inside := true, empty := 0 }
    let mark : Bool := s.ends ∧ c = '\r' ∧ t.head? = some '\n'
    Showing.text s t d' (((if starts then lineNumber d'.number else []) ++ if mark then ['^', 'M'] else s.octet c) :: out)

/-- Whether an input is the file that output goes to, and would be copied to its own end. -/
def Input.isOutput (i : Input) : Program Bool := Program.look fun p s =>
  match s.opening? p i.fd, s.opening? p 1 with
  | some (_, a), some (_, b) =>
    match a.target, b.target with
    | .node x, .node y =>
      let size := ((s.tree.at? y).map fun n => n.bytes.length).getD 0
      x = y && a.offset < if b.appends then size else b.offset
    | _, _ => false
  | _, _ => false

/-- Copies an input to standard output, block by block. -/
def copyInput (name : Text) (i : Input) (convert : Text → Shown → Text × Shown) : Nat → Shown → Program (Int × Shown)
  | 0, d => return (0, d)
  | n + 1, d => do
    match ← Program.read i.fd Program.blockSize with
    | .error e =>
      complainOf name (Quoting.ifNeeded i.name) e
      return (1, d)
    | .ok [] => return (0, d)
    | .ok b =>
      let (t, d) := convert b d
      put name t
      copyInput name i convert n d

/-- Shows files one after another. -/
def cat : Utility := fun name args => do
  let (given, operands) ← options name
    [flag 'A' (lit "show-all"), flag 'b' (lit "number-nonblank"), flag 'e', flag 'E' (lit "show-ends"), flag 'n' (lit "number"),
     flag 's' (lit "squeeze-blank"), flag 't', flag 'T' (lit "show-tabs"), flag 'u', flag 'v' (lit "show-nonprinting")] args
  let has (c : Char) : Bool := hasLetter given c
  let s : Showing :=
    { number := has 'n' && !has 'b', numberFull := has 'b', squeeze := has 's', ends := has 'A' || has 'e' || has 'E'
      tabs := has 'A' || has 't' || has 'T', unprintable := has 'A' || has 'e' || has 't' || has 'v' }
  let plain : Bool := ¬ (s.number ∨ s.numberFull ∨ s.squeeze ∨ s.ends ∨ s.tabs ∨ s.unprintable)
  let convert (b : Text) (d : Shown) : Text × Shown :=
    if plain then (b, d) else ((s.text b d []).1.reverse.flatten, (s.text b d []).2)
  let (status, _) ← (inputsOf operands).foldlM (fun (status, d) operand => do
    match ← openInput operand with
    | .error e =>
      complainOf name (Quoting.ifNeeded operand) e
      return ((1 : Int), d)
    | .ok i =>
      if ← i.isOutput then
        complain name (Quoting.ifNeeded operand ++ lit ": input file is output file")
        i.close
        return (1, d)
      let (result, d) ← copyInput name i convert Program.rounds d
      i.close
      return (max status result, d)) ((0 : Int), ({} : Shown))
  return status

/-! ## Parts of files -/

/-- What part of an input is shown. -/
structure Portion where
  /-- Whether bytes are counted, and not lines. -/
  bytes : Bool := false
  count : Nat := 10
  /-- Whether the part is all but so many, or starts at so many. -/
  other : Bool := false
  last : Char := '\n'
  deriving Inhabited

/-- The bytes of so many lines at the start of a text, and how many of the lines are still missing. -/
def firstLines (last : Char) : Nat → Text → Text → Text × Nat
  | 0, _, out => (out.reverse, 0)
  | n, [], out => (out.reverse, n)
  | n + 1, c :: t, out => firstLines last (if c = last then n else n + 1) t (c :: out)

/-- The lines of a text with their ends. -/
def linesWithEnds (last : Char) (t : Text) : List Text :=
  let ps := Text.pieces (· == last) t
  ps.dropLast.map (· ++ [last]) ++ (ps.getLast?.toList.filter (· ≠ []))

/-- Shows the start of an input. -/
def showStart (name : Text) (i : Input) (p : Portion) : Nat → (left : Nat) → Program Int
  | 0, _ => return 0
  | _, 0 => return 0
  | n + 1, left => do
    match ← Program.read i.fd 8192 with
    | .error e =>
      complainOf name (lit "error reading " ++ Quoting.always i.name) e
      return 1
    | .ok [] => return 0
    | .ok b =>
      let (shown, left) := if p.bytes then (b.take left, left - b.length) else firstLines p.last left b []
      put name shown
      if left = 0 then
        i.back (b.length - shown.length)
        return 0
      showStart name i p n left

/-- A title before a file of several. -/
def title (first : Bool) (name : Text) : Text :=
  (if first then [] else ['\n']) ++ lit "==> " ++ (if name = ['-'] then lit "standard input" else name) ++ lit " <==\n"

/-- The options about portions with an old form of the number in the first argument written as the new one. -/
def modernArguments (plus : Bool) (args : List Text) : List Text :=
  match args with
  | a :: rest =>
    if plus ∧ a.head? = some '+' ∧ 1 < rest.length then args else
    let sign := a.headD ' '
    let ds := (a.drop 1).takeWhile Char.isDigit
    let tail := a.drop (1 + ds.length)
    if (sign = '-' ∨ (plus ∧ sign = '+')) ∧ ds ≠ [] ∧ tail.all fun c => c ∈ ['c', 'b', 'k', 'm', 'l', 'q', 'v', 'f'] then
      let bytes := 'c' ∈ tail ∨ 'b' ∈ tail ∨ 'k' ∈ tail ∨ 'm' ∈ tail
      let unit := if 'b' ∈ tail then ['b'] else if 'k' ∈ tail then ['k'] else if 'm' ∈ tail then ['m'] else []
      let number := (if sign = '+' then ['+'] else []) ++ ds ++ unit
      [if bytes then lit "-c" ++ number else lit "-n" ++ number] ++ (if 'q' ∈ tail then [lit "-q"] else []) ++
        (if 'v' ∈ tail then [lit "-v"] else []) ++ rest
    else args
  | [] => []

/-- The options about portions. -/
def portionOptions : List Known :=
  [valued 'c' (lit "bytes"), valued 'n' (lit "lines"), flag 'q' (lit "quiet"), named (lit "silent"), flag 'v' (lit "verbose"),
   flag 'z' (lit "zero-terminated")]

/-- The portion that some options ask for, where `sign` says that it is another one. -/
def portionOf (name : Text) (given : List Given) (sign : Char) : Program Portion := do
  let last := if hasLetter given 'z' then '\x00' else '\n'
  match lastOf? given [['c'], ['n']] with
  | none => return { last }
  | some g =>
    let v := g.value.getD []
    let bytes : Bool := g.key = ['c']
    let other : Bool := v.head? = some sign
    let digits := if v.head? = some '-' ∨ v.head? = some '+' then v.drop 1 else v
    match size? digits with
    | some count => return { bytes, count, other, last }
    | none =>
      complainWith name (lit "invalid number of " ++ (if bytes then lit "bytes: " else lit "lines: "))
        (if sign = '-' then digits else v) []
      Program.exit 1

/-- Whether titles are shown. -/
def isTitled (given : List Given) (operands : List Text) : Bool :=
  match (lastOf? given [['q'], ['v'], lit "silent"]).map Given.key with
  | some k => k = ['v']
  | none => 1 < operands.length

/-- Shows parts of files, with titles. -/
def showParts (name : Text) (titled : Bool) (f : Input → Program Int) : (first : Bool) → List Text → Program Int
  | _, [] => return 0
  | first, operand :: rest => do
    match ← openInput operand with
    | .error e =>
      complainOf name (lit "cannot open " ++ Quoting.always operand ++ lit " for reading") e
      return max 1 (← showParts name titled f first rest)
    | .ok i =>
      if titled then put name (title first operand)
      let status ← f i
      i.close
      return max status (← showParts name titled f false rest)

/-- Shows the starts of files. -/
def head : Utility := fun name args => do
  let (given, operands) ← options name portionOptions (modernArguments false args)
  let p ← portionOf name given '-'
  showParts name (isTitled given operands) (fun i => do
    if !p.other then showStart name i p Program.rounds p.count
    else match ← Program.readAll i.fd with
      | .error e =>
        complainOf name (lit "error reading " ++ Quoting.always i.name) e
        return 1
      | .ok t =>
        let ls := linesWithEnds p.last t
        put name (if p.bytes then t.take (t.length - p.count) else (ls.take (ls.length - p.count)).flatten)
        return 0) true (inputsOf operands)

/-- Shows the ends of files. -/
def tail : Utility := fun name args => do
  if let some ('-' :: c :: _) := args.head? then
    if c.isDigit ∧ 2 < args.length then
      complain name (lit "option used in invalid context -- " ++ [c])
      Program.exit 1
  let (given, operands) ← options name
    (portionOptions ++ [{ letter := some 'f', name := [] }, { name := lit "follow", takes := .optional }, flag 'F',
      named (lit "max-unchanged-stats") .value, named (lit "pid") .value, named (lit "retry"), valued 's' (lit "sleep-interval")])
    (modernArguments true args)
  let p ← portionOf name given '+'
  showParts name (isTitled given operands) (fun i => do
    match ← Program.readAll i.fd with
    | .error e =>
      complainOf name (lit "error reading " ++ Quoting.always i.name) e
      return 1
    | .ok t =>
      let ls := linesWithEnds p.last t
      let shown := match p.bytes, p.other with
        | true, true => t.drop (p.count - 1)
        | true, false => t.drop (t.length - p.count)
        | false, true => (ls.drop (p.count - 1)).flatten
        | false, false => (ls.drop (ls.length - p.count)).flatten
      put name shown
      return 0) true (inputsOf operands)

/-! ## Lines in another order or form -/

/-- A text cut after every occurrence of a separator, or before it. -/
def records (separator : Text) (before : Bool) : Nat → (current : Text) → Text → List Text
  | 0, current, _ | _, current, [] => [current.reverse]
  | k + 1, current, c :: t =>
    if separator ≠ [] ∧ separator.isPrefixOf (c :: t) then
      let rest := (c :: t).drop separator.length
      if before then current.reverse :: records separator before k separator.reverse rest
      else (current.reverse ++ separator) :: records separator before k [] rest
    else records separator before k (c :: current) t

/-- Shows files with their lines in the opposite order. -/
def tac : Utility := fun name args => do
  let (given, operands) ← options name [flag 'b' (lit "before"), flag 'r' (lit "regex"), valued 's' (lit "separator")] args
  let separator := (value? given ['s']).getD ['\n']
  forEach (fun operand => do
    match ← openInput operand with
    | .error e =>
      complainOf name (lit "failed to open " ++ Quoting.always operand ++ lit " for reading") e
      return 1
    | .ok i =>
      let content ← Program.readAll i.fd
      i.close
      match content with
      | .error e =>
        complainOf name (Quoting.ifNeeded operand ++ lit ": read error") (if e = .isDirectory then .invalidArgument else e)
        return 1
      | .ok t =>
        put name (records separator (hasLetter given 'b') (t.length + 1) [] t).reverse.flatten
        return 0) (inputsOf operands)

/-- Shows the characters of every line in the opposite order. -/
def rev : Utility := fun name args => do
  let (_, operands) ← options name [flag '0' (lit "zero")] args
  forEach (fun operand => do
    match ← readOperand operand with
    | .error e =>
      complain name (lit "cannot open " ++ operand ++ lit ": " ++ e.message)
      return 1
    | .ok t =>
      put name ((linesWithEnds '\n' t).flatMap fun l =>
        let bare := if l.getLast? = some '\n' then l.dropLast else l
        Octets.encoded (Octets.decoded bare).reverse ++ l.drop bare.length)
      return 0) (inputsOf operands)

/-- How lines are numbered. -/
structure Numbering where
  style : Char := 't'
  format : Text := lit "rn"
  width : Nat := 6
  separator : Text := ['\t']
  increment : Nat := 1
  deriving Inhabited

/-- A number as it is shown before a line. -/
def Numbering.shown (n : Numbering) (k : Nat) : Text :=
  let ds := Text.ofNat k
  let gap := n.width - ds.length
  if n.format = lit "ln" then ds ++ List.replicate gap ' '
  else if n.format = lit "rz" then List.replicate gap '0' ++ ds
  else List.replicate gap ' ' ++ ds

/-- Lines with numbers, from a number on. -/
def Numbering.lines (n : Numbering) : Nat → List Text → List Text × Nat
  | k, [] => ([], k)
  | k, l :: ls =>
    let bare := if l.getLast? = some '\n' then l.dropLast else l
    if n.style = 'a' ∨ (n.style = 't' ∧ bare ≠ []) then
      let (rest, last) := Numbering.lines n (k + n.increment) ls
      ((n.shown k ++ n.separator ++ bare ++ ['\n']) :: rest, last)
    else
      let (rest, last) := Numbering.lines n k ls
      ((List.replicate (n.width + n.separator.length) ' ' ++ bare ++ ['\n']) :: rest, last)

/-- Shows files with the numbers of their lines. -/
def nl : Utility := fun name args => do
  let (given, operands) ← options name
    [valued 'b' (lit "body-numbering"), valued 'd' (lit "section-delimiter"), valued 'f' (lit "footer-numbering"),
     valued 'h' (lit "header-numbering"), valued 'i' (lit "line-increment"), valued 'l' (lit "join-blank-lines"),
     valued 'n' (lit "number-format"), flag 'p' (lit "no-renumber"), valued 's' (lit "number-separator"),
     valued 'v' (lit "starting-line-number"), valued 'w' (lit "number-width")] args
  let number (c : Char) (what : String) (standard : Nat) : Program Nat := do
    match value? given [c] with
    | none => return standard
    | some v =>
      match decimal? v with
      | some n => return n
      | none =>
        complainWith name (lit what) v []
        Program.exit 1
  let style := (value? given ['b']).getD ['t']
  if !(style ∈ [['a'], ['t'], ['n']]) then misuseWith name (lit "invalid body numbering style: ") style []
  let format := (value? given ['n']).getD (lit "rn")
  if !(format ∈ [lit "ln", lit "rn", lit "rz"]) then misuseWith name (lit "invalid line numbering format: ") format []
  let n : Numbering :=
    { style := style.headD 't', format, width := ← number 'w' "invalid line number field width: " 6
      separator := (value? given ['s']).getD ['\t'], increment := ← number 'i' "invalid line number increment: " 1 }
  if n.width = 0 then
    complainWith name (lit "invalid line number field width: ") ['0'] (lit ": Numerical result out of range")
    Program.exit 1
  let start ← number 'v' "invalid starting line number: " 1
  let (inputs, status) ← readOperands name operands
  let ls := inputs.flatMap fun i => linesWithEnds '\n' i.2
  put name (n.lines start ls).1.flatten
  return status

/-! ## Counts -/

/-- What is counted in a text. -/
structure Counts where
  lines : Nat := 0
  words : Nat := 0
  chars : Nat := 0
  bytes : Nat := 0
  /-- The columns of the longest line. -/
  longest : Nat := 0
  deriving Inhabited

/-- A character between words. -/
def isGap (c : Char) : Bool := Floating.isSpace c || c.toNat = 0x1680 || (0x2000 ≤ c.toNat && c.toNat ≤ 0x200A && c.toNat ≠ 0x2007) ||
  c.toNat = 0x2028 || c.toNat = 0x2029 || c.toNat = 0x205F || c.toNat = 0x3000

/-- The number of words. -/
def wordCount (t : Text) : Nat := ((Text.pieces isGap t).filter (· ≠ [])).length

/-- The columns of the longest line of a text. -/
def longestLine (t : Text) : Nat :=
  (t.foldl (fun (best, column) c =>
    if c = '\n' ∨ c = '\r' ∨ c = '\x0C' then (max best column, 0)
    else if c = '\t' then (max best (column + 8 - column % 8), column + 8 - column % 8)
    else (max best (column + Text.columnsOf c), column + Text.columnsOf c)) (0, 0)).1

/-- The counts of some octets. -/
def Counts.of (t : Text) : Counts :=
  let cs := (Octets.characters t).filterMap (·.2)
  { lines := (t.filter (· == '\n')).length, words := wordCount (Octets.decoded t), chars := cs.length, bytes := t.length
    longest := longestLine cs }

/-- The counts of two texts one after another. -/
def Counts.add (a b : Counts) : Counts :=
  { lines := a.lines + b.lines, words := a.words + b.words, chars := a.chars + b.chars, bytes := a.bytes + b.bytes
    longest := max a.longest b.longest }

/-- Counts lines, words and bytes. -/
def wc : Utility := fun name args => do
  let (given, operands) ← options name
    [flag 'c' (lit "bytes"), flag 'm' (lit "chars"), flag 'l' (lit "lines"), flag 'L' (lit "max-line-length"), flag 'w' (lit "words"),
     named (lit "files0-from") .value, named (lit "total") .value] args
  let has (c : Char) : Bool := hasLetter given c
  let standard : Bool := ¬ (has 'c' ∨ has 'm' ∨ has 'l' ∨ has 'L' ∨ has 'w')
  let total ← match value? given (lit "total") with
    | some w => choose name (lit "--total") [[lit "auto"], [lit "always"], [lit "only"], [lit "never"]] w
    | none => pure 0
  let shown (k : Counts) : List Nat :=
    (if has 'l' ∨ standard then [k.lines] else []) ++ (if has 'w' ∨ standard then [k.words] else []) ++
      (if has 'm' then [k.chars] else []) ++ (if has 'c' ∨ standard then [k.bytes] else []) ++ if has 'L' then [k.longest] else []
  let inputs := inputsOf operands
  let sizes ← inputs.mapM fun operand => Program.look fun p s =>
    let place? := if operand = ['-'] then
        (s.opening? p 0).bind fun o => match o.2.target with
          | .node q => some q
          | _ => none
      else (s.tree.lookup (s.task p).here operand).toOption
    let known : Option (Option Nat) := (place?.bind s.tree.at?).map fun n => match n.content with
      | .file b => some b.length
      | _ => none
    if operand ≠ ['-'] ∧ place?.isNone then none else some (known.bind id)
  let alone : Bool := inputs.length = 1 ∧ (shown {}).length = 1
  let sum := (sizes.map fun z => (z.bind id).getD 0).foldl (· + ·) 0
  let least := if sizes.any (· = some none) then 7 else 1
  let width := if alone then 1 else max least (Text.ofNat sum).length
  let width := if total = 2 then 1 else width
  let line (k : Counts) (what : Text) : Text :=
    [' '].intercalate ((shown k).map fun n =>
      let ds := Text.ofNat n
      List.replicate (width - ds.length) ' ' ++ ds) ++ (if what = [] then [] else ' ' :: what) ++ ['\n']
  let (status, all) ← inputs.foldlM (fun (status, all) operand => do
    match ← openInput operand with
    | .error e =>
      complainOf name (Quoting.ifNeeded operand) e
      return ((1 : Int), all)
    | .ok i =>
      let content ← Program.readAll i.fd
      i.close
      let (result, t) ← match content with
        | .ok t => pure ((0 : Int), t)
        | .error e => do
          complainOf name (Quoting.ifNeeded operand) e
          pure (1, [])
      let k := Counts.of t
      if total ≠ 2 then put name (line k (if operands = [] then [] else if '\n' ∈ operand then Quoting.ifNeeded operand else operand))
      return (max status result, Counts.add all k)) ((0 : Int), ({} : Counts))
  if (total = 0 ∧ 1 < inputs.length) ∨ total = 1 ∨ total = 2 then
    put name (line all (if total = 2 then [] else lit "total"))
  return status

/-! ## Several outputs -/

/-- Writes a block to several descriptors, and gives those that took it. -/
def writeEach (name : Text) (b : Text) : List (Text × Nat) → Program (List (Text × Nat) × Int)
  | [] => return ([], 0)
  | (what, fd) :: rest => do
    match ← Program.write fd b with
    | .ok () =>
      let (kept, status) ← writeEach name b rest
      return ((what, fd) :: kept, status)
    | .error e =>
      complainOf name (if fd = 1 then lit "standard output" else Quoting.ifNeeded what) e
      let (kept, _) ← writeEach name b rest
      return (kept, 1)

/-- Copies standard input to several descriptors. -/
def spread (name : Text) : Nat → List (Text × Nat) → Int → Program Int
  | 0, _, status => return status
  | n + 1, outputs, status => do
    if outputs = [] then return status
    match ← Program.read 0 Program.blockSize with
    | .error e =>
      complainOf name (lit "read error") e
      return 1
    | .ok [] => return status
    | .ok b =>
      let (kept, result) ← writeEach name b outputs
      spread name n kept (max status result)

/-- Copies standard input to files and to standard output. -/
def tee : Utility := fun name args => do
  let (given, files) ← options name
    [flag 'a' (lit "append"), flag 'i' (lit "ignore-interrupts"), flag 'p', { name := lit "output-error", takes := .optional }] args
  let opened ← files.mapM fun f => do
    match ← Program.openFile f (if hasLetter given 'a' then .append else .write true) with
    | .ok fd => return some (f, fd)
    | .error e =>
      complainOf name (Quoting.ifNeeded f) e
      return none
  let status : Int := if opened.any Option.isNone then 1 else 0
  spread name Program.rounds (([], 1) :: opened.filterMap id) status

end Buildfile.Utility
