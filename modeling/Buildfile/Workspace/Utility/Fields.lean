import Buildfile.Workspace.Escape
import Buildfile.Workspace.Regex
import Buildfile.Workspace.Utility.Reading
/-!
# Fields and characters

Utilities that take parts out of lines, put lines together, and exchange characters for others.
-/

namespace Buildfile.Utility

/-- Treats files one after another, or standard input if there are none: what is shown of each is written, and
those that cannot be read are complained of. -/
def filterFiles (name : Text) (operands : List Text) (f : Text → Text) : Program Int :=
  forEach (fun operand => do
    match ← readOperand operand with
    | .error e =>
      complainOf name (Quoting.ifNeeded operand) e
      return 1
    | .ok t =>
      put name (f t)
      return 0) (inputsOf operands)

/-- The lines of a text without their ends. -/
def bareLines (last : Char) (t : Text) : List Text :=
  (linesWithEnds last t).map fun l => if l.getLast? = some last then l.dropLast else l

/-! ## Parts of lines -/

/-- Positions from one to another one, which may be open. -/
structure Span where
  first : Nat
  last : Option Nat
  deriving DecidableEq, Inhabited

/-- Why a list of positions cannot be understood. -/
inductive SpanFault where
  | zero
  | range
  | noEndpoint
  | decreasing
  | value (t : Text)
  deriving DecidableEq, Inhabited

/-- The wording of a fault in a list of fields, or of bytes; the second text is quoted. -/
def SpanFault.message (fields : Bool) : SpanFault → Text × Option Text
  | zero => (if fields then lit "fields are numbered from 1" else lit "byte/character positions are numbered from 1", none)
  | range => (if fields then lit "invalid field range" else lit "invalid byte or character range", none)
  | noEndpoint => (lit "invalid range with no endpoint: -", none)
  | decreasing => (lit "invalid decreasing range", none)
  | value t => (if fields then lit "invalid field value " else lit "invalid byte/character position ", some t)

/-- The positions of a list. The state is what has been read of an item: digits before a dash, whether there was
one, and digits after it. -/
def spans (before : Text) (dash : Bool) (after : Text) : Text → Except SpanFault (List Span)
  | [] => (item before dash after).map ([·])
  | c :: t =>
    if c = ',' ∨ c = ' ' ∨ c = '\t' then
      (item before dash after).bind fun s => (spans [] false [] t).map (s :: ·)
    else if c = '-' then
      if dash then .error .range
      else if before ≠ [] ∧ Floating.ofDigits 10 before = 0 then .error .zero
      else spans before true [] t
    else if c.isDigit then (if dash then spans before dash (after ++ [c]) t else spans (before ++ [c]) dash after t)
    else .error (.value (c :: t))
where
  /-- The positions of one item. -/
  item (before : Text) (dash : Bool) (after : Text) : Except SpanFault Span :=
    let n := Floating.ofDigits 10 before
    let m := Floating.ofDigits 10 after
    if !dash then (if n = 0 then .error .zero else .ok ⟨n, some n⟩)
    else if before = [] ∧ after = [] then .error .noEndpoint
    else
      let first := if before = [] then 1 else n
      if after = [] then .ok ⟨first, none⟩
      else if m < first then .error .decreasing
      else .ok ⟨first, some m⟩

/-- Spans in order, those that overlap put together. -/
def merged : List Span → List Span
  | a :: b :: rest =>
    match a.last with
    | none => [a]
    | some m =>
      if b.first ≤ m then
        let last := b.last.map (max m)
        if last = none then [⟨a.first, none⟩] else merged (⟨a.first, last⟩ :: rest)
      else a :: merged (b :: rest)
  | ss => ss
termination_by ss => ss.length

/-- All positions that are in no span of an ordered list, from a position on. -/
def outside : (start : Nat) → List Span → List Span
  | start, [] => [⟨start, none⟩]
  | start, s :: rest =>
    (if start < s.first then [⟨start, some (s.first - 1)⟩] else []) ++
      match s.last with
      | none => []
      | some m => outside (m + 1) rest

/-- Whether a position is in a span. -/
def Span.holds (s : Span) (n : Nat) : Bool := s.first ≤ n && s.last.all (n ≤ ·)

/-- The members of a list whose positions are in one of some spans. -/
def chosen {α : Type} (ss : List Span) (as : List α) : List α :=
  ((List.range as.length).zip as).filterMap fun x => if ss.any (·.holds (x.1 + 1)) then some x.2 else none

/-- The octets of a line in some spans, with a text between those of different ones. -/
def chosenOctets (ss : List Span) (between : Text) (line : Text) : Text :=
  between.intercalate ((ss.map fun s => ((line.drop (s.first - 1)).take ((s.last.getD line.length) + 1 - s.first))).filter (· ≠ []))

/-- Takes parts out of lines. -/
def cut : Utility := fun name args => do
  let (given, operands) ← options name
    [valued 'b' (lit "bytes"), valued 'c' (lit "characters"), valued 'd' (lit "delimiter"), valued 'f' (lit "fields"), flag 'n',
     flag 's' (lit "only-delimited"), flag 'z' (lit "zero-terminated"), named (lit "output-delimiter") .value,
     named (lit "complement")] args
  let lists := given.filter fun g => g.key ∈ [['b'], ['c'], ['f']]
  if 1 < lists.length then misuse name (lit "only one list may be specified")
  let delimiter := (value? given ['d']).map fun d => if d = [] then ['\x00'] else d
  if delimiter.any fun d => 1 < d.length then misuse name (lit "the delimiter must be a single character")
  match lists with
  | [] => misuse name (lit "you must specify a list of bytes, characters, or fields")
  | g :: _ =>
    let fields : Bool := g.key = ['f']
    if !fields ∧ delimiter.isSome then
      misuse name (lit "an input delimiter may be specified only when operating on fields")
    if !fields ∧ hasLetter given 's' then
      misuse name (lit "suppressing non-delimited lines makes sense\n\tonly when operating on fields")
    match spans [] false [] (g.value.getD []) with
    | .error f =>
      match f.message fields with
      | (m, none) => misuse name m
      | (m, some w) => misuseWith name m w []
    | .ok ss =>
      let ss := merged (ss.mergeSort fun a b => a.first ≤ b.first)
      let ss := if has given (lit "complement") then outside 1 ss else ss
      let d := (delimiter.getD ['\t']).headD '\t'
      let between := value? given (lit "output-delimiter")
      let last := if hasLetter given 'z' then '\x00' else '\n'
      filterFiles name operands fun t => (bareLines last t).flatMap fun l =>
        if !fields then
          (match between with
            | some b => chosenOctets ss b l
            | none => chosen ss l) ++ [last]
        else if d ∉ l then (if hasLetter given 's' then [] else l ++ [last])
        else (between.getD [d]).intercalate (chosen ss (Text.pieces (· == d) l)) ++ [last]

/-- The delimiters of a list, each of which may be empty. -/
def delimiters : Text → List Text
  | '\\' :: c :: t =>
    (match c with
      | '0' => []
      | 'n' => ['\n']
      | 't' => ['\t']
      | 'b' => ['\x08']
      | 'f' => ['\x0C']
      | 'r' => ['\r']
      | 'v' => ['\x0B']
      | c => [c]) :: delimiters t
  | c :: t => [c] :: delimiters t
  | [] => []

/-- Lists of lines side by side, one after another as long as there are any; delimiters are used in turn. -/
def sideBySide (ds : List Text) : Nat → List (List Text) → List Text
  | 0, _ => []
  | k + 1, files =>
    if files.all List.isEmpty then []
    else
      let cells := files.map fun f => f.headD []
      let joined := ((List.range cells.length).zip cells).flatMap fun x =>
        (if x.1 = 0 then [] else (ds[(x.1 - 1) % ds.length]?).getD []) ++ x.2
      joined :: sideBySide ds k (files.map (·.drop 1))

/-- Puts lines of files side by side, or the lines of every file. -/
def paste : Utility := fun name args => do
  let (given, operands) ← options name
    [valued 'd' (lit "delimiters"), flag 's' (lit "serial"), flag 'z' (lit "zero-terminated")] args
  let list := (value? given ['d']).getD ['\t']
  if list.getLast? = some '\\' ∧ (list.reverse.takeWhile (· = '\\')).length % 2 = 1 then
    complain name (lit "delimiter list ends with an unescaped backslash: " ++ Quoting.always list)
    Program.exit 1
  let ds := if list = [] then [[]] else delimiters list
  let last := if hasLetter given 'z' then '\x00' else '\n'
  let inputs := inputsOf operands
  if hasLetter given 's' then
    filterFiles name operands fun t =>
      let ls := bareLines last t
      ((List.range ls.length).zip ls).flatMap (fun x =>
        (if x.1 = 0 then [] else (ds[(x.1 - 1) % ds.length]?).getD []) ++ x.2) ++ [last]
  else
    let dashes := (inputs.filter (· = ['-'])).length
    let contents ← inputs.mapM fun operand => do
      if operand = ['-'] then return (none : Option (List Text))
      match ← readOperand operand with
      | .ok t => return some (bareLines last t)
      | .error e =>
        complainOf name (Quoting.ifNeeded operand) e
        Program.exit 1
    let standard ← if dashes = 0 then pure [] else do
      match ← Program.readAll 0 with
      | .ok t => pure (bareLines last t)
      | .error _ => pure []
    let share (i : Nat) : List Text :=
      ((List.range standard.length).zip standard).filterMap fun x => if x.1 % dashes = i then some x.2 else none
    let files := (contents.foldl (fun (out, i) c =>
      match c with
      | some ls => (ls :: out, i)
      | none => (share i :: out, i + 1)) (([] : List (List Text)), 0)).1.reverse
    let most := (files.map List.length).foldl max 0
    put name ((sideBySide ds (most + 1) files).flatMap (· ++ [last]))
    return 0

/-! ## Exchanging characters -/

/-- An item of a set of characters. -/
inductive SetItem where
  | chars (cs : Text)
  | named (c : CharClass)
  | equivalent (c : Char)
  /-- A character so many times, or as often as needed. -/
  | times (c : Char) (n : Nat)
  deriving DecidableEq, Inhabited

/-- All octets. -/
def octets : Text := (List.range 256).map Char.ofNat

/-- The octets of an item, where one that is repeated as often as needed is there so often. -/
def SetItem.expand (needed : Nat) : SetItem → Text
  | chars cs => cs
  | named c => octets.filter fun o => o.toNat < 128 && c.holds o
  | equivalent c => [c]
  | times c n => List.replicate (if n = 0 then needed else n) c

/-- The characters of a set with escapes replaced, and whether each was escaped. -/
def setChars : Nat → Text → List (Char × Bool)
  | 0, _ | _, [] => []
  | k + 1, '\\' :: c :: t =>
    match Escape.octal? c with
    | some _ =>
      let ds := (c :: t).takeWhile (fun c => (Escape.octal? c).isSome) |>.take 3
      let ds := if 255 < Floating.ofDigits 8 ds then ds.take 2 else ds
      (Char.ofNat (Floating.ofDigits 8 ds), true) :: setChars k ((c :: t).drop ds.length)
    | none => ((Escape.letter? c).getD c, true) :: setChars k t
  | k + 1, c :: t => (c, false) :: setChars k t

/-- A character as it is shown in a message. -/
def shownChar (c : Char) : Text :=
  if ' ' ≤ c ∧ c.toNat < 127 then [c] else Quoting.escaped [c]

/-- The items of a set, or the complaint about it, of which the last part is quoted. -/
def setItems : Nat → List (Char × Bool) → Except (Text × Option Text × Text) (List SetItem)
  | 0, _ | _, [] => .ok []
  | k + 1, (c, escaped) :: t =>
    let text (m : List (Char × Bool)) : Text := m.map (·.1)
    let closing (mark : Char) (m : List (Char × Bool)) : Option (List (Char × Bool) × List (Char × Bool)) :=
      ((List.range m.length).find? fun i => m[i]? = some (mark, false) ∧ m[i + 1]? = some (']', false)).map fun i =>
        (m.take i, m.drop (i + 2))
    let plain : Except (Text × Option Text × Text) (List SetItem) :=
      match t with
      | ('-', false) :: (d, _) :: rest =>
        if d < c then
          .error (lit "range-endpoints of '" ++ shownChar c ++ ['-'] ++ shownChar d ++
            lit "' are in reverse collating sequence order", none, [])
        else
          (setItems k rest).map (.chars ((List.range (d.toNat + 1 - c.toNat)).map fun i => Char.ofNat (c.toNat + i)) :: ·)
      | _ => (setItems k t).map (.chars [c] :: ·)
    if escaped ∨ c ≠ '[' then plain
    else match t with
      | (':', false) :: m =>
        match closing ':' m with
        | some (n, rest) =>
          match CharClass.ofName? (text n) with
          | some c => (setItems k rest).map (.named c :: ·)
          | none =>
            if n = [] then .error (lit "missing character class name '[::]'", none, [])
            else .error (lit "invalid character class ", some (text n), [])
        | none => plain
      | ('=', false) :: m =>
        match closing '=' m with
        | some ([(c, _)], rest) => (setItems k rest).map (.equivalent c :: ·)
        | some ([], _) => .error (lit "missing equivalence class character '[==]'", none, [])
        | some (n, _) => .error (text n ++ lit ": equivalence class operand must be a single character", none, [])
        | none => plain
      | (d, _) :: ('*', false) :: m =>
        let ds := m.takeWhile (·.1.isDigit)
        match m.drop ds.length with
        | (']', false) :: rest =>
          let n := Floating.ofDigits (if (text ds).head? = some '0' then 8 else 10) (text ds)
          (setItems k rest).map (.times d n :: ·)
        | _ =>
          match (List.range m.length).find? fun i => m[i]? = some (']', false) with
          | some i => if i = 0 then plain else
            .error (lit "invalid repeat count ", some (text (m.take i)), lit " in [c*n] construct")
          | none => plain
      | _ => plain

/-- What is done to a stream of characters. -/
structure Exchange where
  delete : Char → Bool := fun _ => false
  change : Char → Char := id
  squeeze : Char → Bool := fun _ => false
  deriving Inhabited

/-- Characters after an exchange; the last one is that which was let through before, if any. -/
def Exchange.apply (x : Exchange) : Option Char → Text → Text → Text × Option Char
  | last, [], out => (out.reverse, last)
  | last, c :: t, out =>
    if x.delete c then Exchange.apply x last t out
    else
      let d := x.change c
      if last = some d ∧ x.squeeze d then Exchange.apply x last t out else Exchange.apply x (some d) t (d :: out)

/-- Copies standard input to standard output with its characters exchanged. -/
def exchangeInput (name : Text) (x : Exchange) : Nat → Option Char → Program Int
  | 0, _ => return 0
  | n + 1, last => do
    match ← Program.read 0 Program.blockSize with
    | .error e =>
      complainOf name (lit "read error") e
      return 1
    | .ok [] => return 0
    | .ok b =>
      let (t, last) := x.apply last b []
      put name t
      exchangeInput name x n last

/-- What the sets of an exchange are. -/
structure Sets where
  first : List SetItem
  second : Option (List SetItem)
  complement : Bool
  delete : Bool
  squeeze : Bool
  truncate : Bool
  deriving Inhabited

/-- Whether an item repeats a character as often as needed. -/
def isOpen : SetItem → Bool
  | .times _ n => n = 0
  | _ => false

/-- Whether an item is a repeated character. -/
def isRepeat : SetItem → Bool
  | .times _ _ => true
  | _ => false

/-- The class of an item. -/
def classOf? : SetItem → Option CharClass
  | .named c => some c
  | _ => none

/-- Whether an item is a class of equivalent characters. -/
def isEquivalent : SetItem → Bool
  | .equivalent _ => true
  | _ => false

namespace Sets

/-- Whether characters are exchanged for others. -/
def translates (s : Sets) : Bool := s.second.isSome && !s.delete

/-- The octets of the first set. -/
def source (s : Sets) : Text :=
  let cs := s.first.flatMap (·.expand 0)
  if s.complement then octets.filter (· ∉ cs) else cs

/-- The octets of the second set, as many as there are in the first one. -/
def target (s : Sets) : Text :=
  let items := s.second.getD []
  let bare := (items.flatMap (·.expand 0)).length
  let cs := items.flatMap (·.expand (s.source.length - bare))
  if s.truncate then cs
  else cs ++ (match cs.getLast? with
    | some c => List.replicate (s.source.length - cs.length) c
    | none => [])

/-- The complaint about the sets, if there is one. -/
def fault? (s : Sets) : Option Text :=
  let items := s.second.getD []
  let isCase (i : SetItem) : Bool := match classOf? i with
    | some .upper | some .lower => true
    | _ => false
  if s.first.any isRepeat then some (lit "the [c*] repeat construct may not appear in string1")
  else if 1 < (items.filter isOpen).length then some (lit "only one [c*] repeat construct may appear in string2")
  else if s.translates then
    if items.any isEquivalent then some (lit "[=c=] expressions may not appear in string2 when translating")
    else if items.any fun i => (classOf? i).isSome && !isCase i then
      some (lit "when translating, the only character classes that may appear in\nstring2 are 'upper' and 'lower'")
    else if items = [] ∧ !s.truncate then some (lit "when not truncating set1, string2 must be non-empty")
    else if s.complement ∧ (s.first.any fun i => (classOf? i).isSome) ∧
        (s.target.any fun c => some c ≠ s.target.head?) then
      some (lit "when translating with complemented character classes,\nstring2 must map all characters in the domain to one")
    else if misaligned (starts 0 s.first) (starts 0 items) then
      some (lit "misaligned [:upper:] and/or [:lower:] construct")
    else none
  else if items.any isOpen then some (lit "the [c*] construct may appear in string2 only when translating")
  else none
where
  /-- Where the items of a set start. -/
  starts (n : Nat) : List SetItem → List (Nat × SetItem)
    | [] => []
    | i :: is => (n, i) :: starts (n + (i.expand 0).length) is
  /-- Whether a class of small or capital letters stands against something else. -/
  misaligned (first second : List (Nat × SetItem)) : Bool :=
    second.any fun (n, i) => (classOf? i).isSome && !(first.any fun (m, j) => m = n && (classOf? j = some .upper || classOf? j = some .lower))

/-- The exchange that the sets stand for. -/
def exchange (s : Sets) : Exchange :=
  let source := s.source
  if s.delete then
    { delete := fun c => c ∈ source
      squeeze := if s.squeeze then fun c => c ∈ (s.second.getD []).flatMap (·.expand 0) else fun _ => false }
  else if s.second.isSome then
    let pairs := (source.zip s.target).reverse
    let target := s.target
    { change := fun c => (pairs.lookup c).getD c
      squeeze := if s.squeeze then fun c => c ∈ target else fun _ => false }
  else { squeeze := fun c => s.squeeze && c ∈ source }

end Sets

/-- Exchanges characters for others, deletes them, or leaves out those that repeat the one before. -/
def tr : Utility := fun name args => do
  let (given, operands) ← options name
    [flag 'c' (lit "complement"), flag 'C', flag 'd' (lit "delete"), flag 's' (lit "squeeze-repeats"), flag 't' (lit "truncate-set1")]
    args false
  let delete := hasLetter given 'd'
  let squeeze := hasLetter given 's'
  let least := if delete = squeeze then 2 else 1
  let most := if delete ∧ !squeeze then 1 else 2
  if operands.length < least then
    match operands.getLast? with
    | none => missingOperand name
    | some w => do
      complainWith name (lit "missing operand after ") w []
      tell (if delete then lit "Two strings must be given when both deleting and squeezing repeats."
        else lit "Two strings must be given when translating.")
      hint name
      Program.exit 1
  if most < operands.length then
    complainWith name (lit "extra operand ") ((operands.drop most).headD []) []
    if operands.length = 2 then tell (lit "Only one string may be given when deleting without squeezing repeats.")
    hint name
    Program.exit 1
  let read (t : Text) : Program (List SetItem) := do
    if t.getLast? = some '\\' ∧ (t.reverse.takeWhile (· = '\\')).length % 2 = 1 then
      complain name (lit "warning: an unescaped backslash at end of string is not portable")
    match setItems (t.length + 1) (setChars (t.length + 1) t) with
    | .ok items => return items
    | .error (before, word, after) =>
      match word with
      | some w => complainWith name before w after
      | none => complain name before
      Program.exit 1
  let first ← read (operands.headD [])
  let second ← (operands[1]?).mapM read
  let s : Sets :=
    { first, second, complement := hasLetter given 'c' || hasLetter given 'C', delete, squeeze, truncate := hasLetter given 't' }
  match s.fault? with
  | some m =>
    complain name m
    return 1
  | none => exchangeInput name s.exchange Program.rounds none

/-! ## Widths of lines -/

/-- The column after a character in another one. -/
def nextColumn (bytes : Bool) (column : Nat) (c : Char) : Nat :=
  if bytes then column + 1
  else if c = '\x08' then column - 1
  else if c = '\r' then 0
  else if c = '\t' then column + 8 - column % 8
  else column + 1

/-- The column after some characters. -/
def columnAfter (bytes : Bool) (t : Text) : Nat := t.foldl (nextColumn bytes) 0

/-- Text with lines of at most so many columns. The state is the line that is being filled, the latest character
first. -/
def folded (bytes spaces : Bool) (width : Nat) : Nat → (line : Text) → Text → Text
  | 0, line, t => line.reverse ++ t
  | _, line, [] => line.reverse
  | k + 1, line, c :: t =>
    if c = '\n' then line.reverse ++ '\n' :: folded bytes spaces width k [] t
    else
      let column := columnAfter bytes line.reverse
      let next := nextColumn bytes column c
      if next ≤ width ∨ line = [] then folded bytes spaces width k (c :: line) t
      else
        let word := if spaces then line.takeWhile fun c => c ≠ ' ' ∧ c ≠ '\t' else []
        let kept := if spaces ∧ word.length < line.length then line.drop word.length else line
        let moved := if spaces ∧ word.length < line.length then word else []
        kept.reverse ++ '\n' :: folded bytes spaces width k moved (c :: t)

/-- Folds lines that are too long. -/
def fold : Utility := fun name args => do
  let args := args.map fun a =>
    if a.head? = some '-' ∧ a.length > 1 ∧ (a.drop 1).all Char.isDigit then lit "-w" ++ a.drop 1 else a
  let (given, operands) ← options name [flag 'b' (lit "bytes"), flag 's' (lit "spaces"), valued 'w' (lit "width")] args
  let w := (value? given ['w']).getD (lit "80")
  match decimal? w with
  | none | some 0 =>
    complainWith name (lit "invalid number of columns: ") w (if decimal? w = some 0 then lit ": Numerical result out of range" else [])
    return 1
  | some n => filterFiles name operands fun t => folded (hasLetter given 'b') (hasLetter given 's') n (2 * t.length + 2) [] t

/-- The tab stop after a column, where stops are listed or come at equal distances. -/
def nextStop (stops : List Nat) (column : Nat) : Nat :=
  match stops with
  | [n] => column + n - column % n
  | _ => (stops.find? (column < ·)).getD (column + 1)

/-- Text with tabs replaced by blanks; with `initial`, only those before other characters. -/
def expanded (stops : List Nat) (initial : Bool) : (column : Nat) → (start : Bool) → Text → Text
  | _, _, [] => []
  | column, start, c :: t =>
    if c = '\n' then c :: expanded stops initial 0 true t
    else if c = '\t' ∧ (start ∨ !initial) then
      let next := nextStop stops column
      List.replicate (next - column) ' ' ++ expanded stops initial next start t
    else if c = '\x08' then c :: expanded stops initial (column - 1) false t
    else c :: expanded stops initial (column + 1) (start && (c = ' ' || c = '\t')) t

/-- The tab stops of an option. -/
def tabStops (name : Text) (given : List Given) : Program (List Nat) := do
  match value? given ['t'] with
  | none => return [8]
  | some t =>
    let ws := (Text.pieces (fun c => c == ',' || c == ' ') t).filter (· ≠ [])
    let ns ← ws.mapM fun w => do
      match decimal? w with
      | some 0 => do
        complain name (lit "tab size cannot be 0")
        Program.exit 1
      | some n => return n
      | none => do
        complainWith name (lit "tab size contains invalid character(s): ") (w.dropWhile Char.isDigit) []
        Program.exit 1
    if (ns.zip (ns.drop 1)).any fun p => p.2 ≤ p.1 then
      complain name (lit "tab sizes must be ascending")
      Program.exit 1
    return if ns = [] then [8] else ns

/-- Replaces tabs by blanks. -/
def expand : Utility := fun name args => do
  let args := args.map fun a =>
    if a.head? = some '-' ∧ a.length > 1 ∧ (a.drop 1).all (fun c => c.isDigit || c == ',') then lit "-t" ++ a.drop 1 else a
  let (given, operands) ← options name [flag 'i' (lit "initial"), valued 't' (lit "tabs")] args
  let stops ← tabStops name given
  filterFiles name operands (expanded stops (hasLetter given 'i') 0 true)

/-- Blanks from one column to another one, with tabs where they reach a stop; a single blank at the end stays one
unless it was a tab. -/
def tabbed (stops : List Nat) (endsWithTab : Bool) : Nat → (start stop : Nat) → Text
  | 0, _, _ => []
  | k + 1, start, stop =>
    let next := nextStop stops start
    if next < stop ∨ (next = stop ∧ (start + 1 < next ∨ endsWithTab)) then '\t' :: tabbed stops endsWithTab k next stop
    else List.replicate (stop - start) ' '

/-- A line with blanks replaced by tabs: those at its start, or all. -/
def unexpanded (stops : List Nat) (all : Bool) : Nat → (column : Nat) → (start : Bool) → Text → Text
  | 0, _, _, t => t
  | _, _, _, [] => []
  | k + 1, column, start, c :: t =>
    if (c = ' ' ∨ c = '\t') ∧ (start ∨ all) then
      let run := (c :: t).takeWhile fun c => c == ' ' || c == '\t'
      let stop := run.foldl (fun n c => if c = '\t' then nextStop stops n else n + 1) column
      let shown := if run = [' '] ∧ !start then [' '] else if run = [' '] then (if nextStop stops column = column + 1 then ['\t'] else [' '])
        else tabbed stops (run.getLast? = some '\t') (run.length + stop + 1) column stop
      shown ++ unexpanded stops all k stop false ((c :: t).drop run.length)
    else c :: unexpanded stops all k (column + 1) false t

/-- Replaces blanks by tabs. -/
def unexpand : Utility := fun name args => do
  let (given, operands) ← options name [flag 'a' (lit "all"), named (lit "first-only"), valued 't' (lit "tabs")] args
  let stops ← tabStops name given
  let all := (hasLetter given 'a' || hasLetter given 't') && !has given (lit "first-only")
  filterFiles name operands fun t => (linesWithEnds '\n' t).flatMap fun l =>
    let bare := if l.getLast? = some '\n' then l.dropLast else l
    unexpanded stops all (bare.length + 1) 0 true bare ++ l.drop bare.length

end Buildfile.Utility
