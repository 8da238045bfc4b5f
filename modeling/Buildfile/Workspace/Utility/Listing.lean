import Buildfile.Text.Columns
import Buildfile.Workspace.Calendar
import Buildfile.Workspace.Escape
import Buildfile.Workspace.Pattern
import Buildfile.Workspace.Permission
import Buildfile.Workspace.Utility.Copying
/-!
# Listings

Utilities that show what is in directories and what is known of files. Files that are named themselves come
first, and then the directories, each with what it holds.
-/

namespace Buildfile.Utility

/-! ## How a listing looks -/

/-- How entries are laid out. -/
inductive Layout where
  | lines
  | commas
  | columns
  | rows
  | long
  deriving DecidableEq, Inhabited

/-- What entries are ordered by. -/
inductive SortedBy where
  | name
  | size
  | time
  | extension
  | version
  | none
  deriving DecidableEq, Inhabited

/-- What is put after names to show what they stand for. -/
inductive Marking where
  | none
  | directories
  | kinds
  | all
  deriving DecidableEq, Inhabited

/-- How names are quoted. -/
inductive NameStyle where
  | plain
  | questions
  | escaped
  | quotes
  | shell
  | shellAlways
  deriving DecidableEq, Inhabited

/-- What a listing shows, and how. -/
structure Listing where
  layout : Layout := .lines
  ordering : SortedBy := .name
  marking : Marking := .none
  style : NameStyle := .plain
  reversed : Bool := false
  recursive : Bool := false
  /-- Whether directories are shown like files. -/
  plainDirectories : Bool := false
  /-- Whether names that start with a dot are shown, and the directory itself and the one above it. -/
  hidden : Bool := false
  own : Bool := false
  ignored : List Text := []
  directoriesFirst : Bool := false
  follow : Following := .none
  followOperands : Bool := true
  inodes : Bool := false
  blocks : Bool := false
  human : Bool := false
  owner : Bool := true
  group : Bool := true
  numeric : Bool := false
  width : Nat := 80
  ending : Text := ['\n']
  timeFormat : Option Text := none
  deriving Inhabited

/-- An entry of a listing. -/
structure Entry where
  name : Text
  path : Text
  place : Place
  node : Node
  links : Nat
  /-- What a link leads to, if anything. -/
  target : Option Node := none
  deriving Inhabited

namespace Entry

/-- The number of bytes of an entry. -/
def size (e : Entry) : Nat :=
  match e.node.content with
  | .directory _ _ => 4096
  | .link t => t.length
  | .program _ => 35000
  | _ => e.node.bytes.length

/-- The size of what an entry takes up, in units of 1024 bytes. -/
def blocks (e : Entry) : Nat :=
  match e.node.content with
  | .link _ | .device _ => 0
  | _ => (e.size + 4095) / 4096 * 4

end Entry

/-- The letter of the kind of a node. -/
def kindLetter (n : Node) : Char :=
  match n.content with
  | .directory _ _ => 'd'
  | .link _ => 'l'
  | .device _ => 'c'
  | _ => '-'

/-- The mark after the name of a node. -/
def markOf (m : Marking) (n : Node) : Text :=
  match m, n.content with
  | .none, _ => []
  | _, .directory _ _ => ['/']
  | .directories, _ => []
  | _, .link _ => ['@']
  | .all, .file _ | .all, .program _ => if n.mayExecute then ['*'] else []
  | _, _ => []

/-- A name with what is unprintable in it after backslashes. -/
def escapedName (quotes : Bool) (t : Text) : Text :=
  (Octets.characters t).flatMap fun u =>
    if u.1 = ['\\'] then ['\\', '\\']
    else if quotes ∧ u.1 = ['"'] then ['\\', '"']
    else if !quotes ∧ u.1 = [' '] then ['\\', ' ']
    else if Quoting.isShown u then u.1
    else Quoting.escaped u.1

/-- A name in a style. -/
def styled (s : NameStyle) (t : Text) : Text :=
  match s with
  | .plain => t
  | .questions => (Octets.characters t).flatMap fun u => if Quoting.isShown u then u.1 else ['?']
  | .escaped => escapedName false t
  | .quotes => '"' :: escapedName true t ++ ['"']
  | .shell => Quoting.ifNeeded t
  | .shellAlways => Quoting.always t

/-- The columns that a text takes up. -/
def columnsOf (t : Text) : Nat := Text.columns ((Octets.characters t).filterMap (·.2))

/-! ## Order -/

/-- The extension of a name, from its last dot on. -/
def extension (t : Text) : Text :=
  if '.' ∈ t then '.' :: (t.reverse.takeWhile (· ≠ '.')).reverse else []

/-- A name cut into runs of digits and of other characters, at most so many. -/
def versionParts : Nat → Text → List (Nat ⊕ Text)
  | 0, _ | _, [] => []
  | k + 1, c :: t =>
    if c.isDigit then
      let ds := (c :: t).takeWhile Char.isDigit
      .inl (Floating.ofDigits 10 ds) :: versionParts k ((c :: t).drop ds.length)
    else
      let cs := (c :: t).takeWhile (!Char.isDigit ·)
      .inr cs :: versionParts k ((c :: t).drop cs.length)

/-- Whether a version comes before another one or is the same. -/
def versionPrecedes : List (Nat ⊕ Text) → List (Nat ⊕ Text) → Bool
  | [], _ => true
  | _ :: _, [] => false
  | .inl a :: xs, .inl b :: ys => a < b || (a = b && versionPrecedes xs ys)
  | .inr a :: xs, .inr b :: ys => if a = b then versionPrecedes xs ys else Text.precedes a b
  | .inl _ :: _, .inr _ :: _ => true
  | .inr _ :: _, .inl _ :: _ => false

/-- Whether an entry comes before another one. -/
def comesFirst (o : SortedBy) (a b : Entry) : Bool :=
  let byName := Text.precedes a.name b.name
  match o with
  | .name => byName
  | .none => a.place ≤ b.place
  | .size => b.size < a.size || (a.size = b.size && byName)
  | .time => b.node.modified < a.node.modified || (a.node.modified = b.node.modified && byName)
  | .extension =>
    let (x, y) := (extension a.name, extension b.name)
    if x = y then byName else Text.precedes x y
  | .version => versionPrecedes (versionParts a.name.length a.name) (versionParts b.name.length b.name)

/-- Entries in the order of a listing. -/
def ordered (l : Listing) (es : List Entry) : List Entry :=
  let sorted := es.mergeSort (comesFirst l.ordering)
  let sorted := if l.reversed ∧ l.ordering ≠ .none then sorted.reverse else sorted
  if l.directoriesFirst then
    let isDirectory (e : Entry) : Bool := e.node.isDirectory || e.target.any Node.isDirectory
    sorted.filter isDirectory ++ sorted.filter (!isDirectory ·)
  else sorted

/-! ## Lines -/

/-- A number in the smallest of some units in which it has few digits. -/
def scaled : List Char → Nat → Text
  | [], n => Text.ofNat n
  | u :: us, n =>
    if n < 1024 then Text.ofNat n
    else
      let tenths := (n * 10 + 1023) / 1024
      if tenths < 100 then Text.ofNat (tenths / 10) ++ '.' :: Text.ofNat (tenths % 10) ++ [u]
      else
        let whole := (n + 1023) / 1024
        if whole < 1024 then Text.ofNat whole ++ [u] else scaled us whole

/-- A number of bytes with a letter for its unit. -/
def humanSize (n : Nat) : Text := scaled ['K', 'M', 'G', 'T', 'P', 'E'] n

/-- The size of a file as it is shown. -/
def shownSize (l : Listing) (e : Entry) : Text :=
  match e.node.content with
  | .device .null => lit "1, 3"
  | .device .zero => lit "1, 5"
  | .device .full => lit "1, 7"
  | .device _ => lit "1, 0"
  | _ => if l.human then humanSize e.size else Text.ofNat e.size

/-- The blocks of a file as they are shown. -/
def shownBlocks (l : Listing) (n : Nat) : Text := if l.human then humanSize (1024 * n) else Text.ofNat n

/-- Text at the right end of a column. -/
def right (width : Nat) (t : Text) : Text := List.replicate (width - t.length) ' ' ++ t

/-- Text at the left end of a column. -/
def left (width : Nat) (t : Text) : Text := t ++ List.replicate (width - t.length) ' '

/-- The greatest length of some texts. -/
def widest (ts : List Text) : Nat := (ts.map List.length).foldl max 0

/-- A name with its mark, and what may come before it. -/
def nameCell (l : Listing) (inodeWidth blockWidth : Nat) (e : Entry) : Text :=
  (if l.inodes then right inodeWidth (Text.ofNat e.place) ++ [' '] else []) ++
    (if l.blocks then right blockWidth (shownBlocks l e.blocks) ++ [' '] else []) ++
    styled l.style e.name ++ if l.layout = .long ∧ e.node.isLink then [] else markOf l.marking e.node

/-- Half a year, in seconds. -/
def halfYear : Int := 15778476

/-- The time of a file as it is shown. -/
def shownTime (l : Listing) (now : Int) (e : Entry) : Text :=
  let seconds := (now - e.node.modified).fdiv 1000000000
  let format := l.timeFormat.getD (if -1 < seconds ∧ seconds < halfYear then lit "%b %e %H:%M" else lit "%b %e  %Y")
  Calendar.text format e.node.modified

/-- The lines of a long listing. -/
def longLines (l : Listing) (now : Int) (es : List Entry) : List Text :=
  let linkWidth := widest (es.map fun e => Text.ofNat e.links)
  let sizeWidth := widest (es.map (shownSize l))
  let inodeWidth := widest (es.map fun e => Text.ofNat e.place)
  let blockWidth := widest (es.map fun e => shownBlocks l e.blocks)
  let who := if l.numeric then lit "0" else lit "root"
  es.map fun e =>
    let arrow := match e.node.content with
      | .link t => lit " -> " ++ styled l.style t ++ ((e.target.map (markOf l.marking)).getD [])
      | _ => []
    (if l.inodes then right inodeWidth (Text.ofNat e.place) ++ [' '] else []) ++
      (if l.blocks then right blockWidth (shownBlocks l e.blocks) ++ [' '] else []) ++
      kindLetter e.node :: Permission.letters e.node.mode ++ ' ' :: right linkWidth (Text.ofNat e.links) ++ [' '] ++
      (if l.owner then who ++ [' '] else []) ++ (if l.group then who ++ [' '] else []) ++
      right sizeWidth (shownSize l e) ++ ' ' :: shownTime l now e ++ ' ' ::
      nameCell { l with inodes := false, blocks := false } 0 0 e ++ arrow

/-- Blanks and tabs from one column to another one, in at most so many steps. -/
def indentation : Nat → (start stop : Nat) → Text
  | 0, _, _ => []
  | k + 1, start, stop =>
    if stop ≤ start then []
    else if (start + 1) / 8 < stop / 8 then '\t' :: indentation k (start + 8 - start % 8) stop
    else ' ' :: indentation k (start + 1) stop

/-- The widths of so many columns for cells that go down, or across. -/
def columnWidths (down : Bool) (widths : List Nat) (count : Nat) : List Nat :=
  let rows := (widths.length + count - 1) / count
  (List.range count).map fun c =>
    let cells := (List.range widths.length).filter fun i => (if down then i / rows else i % count) = c
    let isLast := c + 1 = count
    (cells.map fun i => (widths[i]?).getD 0 + if isLast then 0 else 2).foldl max 3

/-- The number of columns that cells fit into. -/
def columnCount (down : Bool) (width : Nat) (widths : List Nat) : Nat :=
  let most := max 1 (min widths.length (if width = 0 then widths.length else (width + 2) / 3))
  (((List.range most).map (· + 1)).reverse.find? fun c =>
    width = 0 ∨ (columnWidths down widths c).foldl (· + ·) 0 < width).getD 1

/-- Cells in columns. -/
def inColumns (down : Bool) (width : Nat) (cells : List Text) : List Text :=
  let widths := cells.map columnsOf
  let count := columnCount down width widths
  let rows := (cells.length + count - 1) / count
  let columns := columnWidths down widths count
  let starts := (List.range count).map fun c => (columns.take c).foldl (· + ·) 0
  (List.range rows).map fun r =>
    let row := (List.range count).filterMap fun c =>
      let i := if down then c * rows + r else r * count + c
      (cells[i]?).map fun cell => ((starts[c]?).getD 0, cell)
    (row.foldl (fun (line, at') x =>
      (line ++ indentation (x.1 + 1) at' x.1 ++ x.2, x.1 + columnsOf x.2)) (([] : Text), 0)).1

/-- Cells with commas between them. -/
def withCommas (width : Nat) : List Text → (column : Nat) → (first : Bool) → Text
  | [], _, _ => []
  | c :: cs, column, first =>
    let n := columnsOf c
    if first then c ++ withCommas width cs n false
    else if width = 0 ∨ column + n + 2 < width then ',' :: ' ' :: c ++ withCommas width cs (column + 2 + n) false
    else ',' :: '\n' :: c ++ withCommas width cs n false

/-- What a listing shows of entries. -/
def shownEntries (l : Listing) (now : Int) (es : List Entry) : Text :=
  let l := { l with layout := if l.width = 0 ∧ l.layout = .rows then .columns else l.layout }
  let cells := es.map (nameCell l (widest (es.map fun e => Text.ofNat e.place)) (widest (es.map fun e => shownBlocks l e.blocks)))
  let ended (ls : List Text) : Text := ls.flatMap (· ++ l.ending)
  match l.layout with
  | .lines => ended cells
  | .commas => if cells = [] then [] else withCommas l.width cells 0 true ++ l.ending
  | .columns => if cells = [] then [] else if l.width = 0 then [' ', ' '].intercalate cells ++ l.ending else ended (inColumns true l.width cells)
  | .rows => if cells = [] then [] else ended (inColumns false l.width cells)
  | .long => ended (longLines l now es)

/-! ## Looking up entries -/

/-- The number of names of a node. -/
def namesOf (t : Tree) (p : Place) : Nat :=
  if t.isDirectory p then 2 + ((t.entries p).filter fun e => t.isDirectory e.2).length else linkCount t p

/-- The entry of a path. -/
def entryAt (t : Tree) (here : Place) (follow : Bool) (name path : Text) : Except Errno Entry :=
  (t.lookup here path follow).bind fun p =>
    ((t.at? p).elim (.error .noEntry) .ok : Except Errno Node).map fun n =>
      { name, path, place := p, node := n, links := namesOf t p
        target := if n.isLink then (t.nodeOf here path).toOption else none }

/-- Whether a listing leaves out a name in a directory. -/
def leavesOut (l : Listing) (name : Text) : Bool :=
  (!l.hidden && name.head? = some '.') || l.ignored.any fun p => Pattern.covers (Pattern.ofText p) name

/-- The entries of a directory. -/
def entriesOf (l : Listing) (t : Tree) (here : Place) (path : Text) : Except Errno (List Entry) :=
  match t.directoryOf here path with
  | .error e => .error e
  | .ok p =>
    let names := (t.entries p).map (·.1)
    let names := (if l.own then [['.'], ['.', '.']] else []) ++ names.filter (!leavesOut l ·)
    .ok (names.filterMap fun c =>
      let found (follow : Bool) : Option Entry := (entryAt t here follow c (Path.join path c)).toOption
      (if l.follow = .all then found true else none).orElse fun _ => found false)

/-- Whether a listing has to know more of its entries than their names and kinds. -/
def looksClosely (l : Listing) : Bool :=
  l.layout = .long || l.marking ≠ .none || l.blocks || l.ordering = .size || l.ordering = .time

/-- Shows directories, with those below them if asked to, at most so many; `first` holds until something has been
shown. -/
def showDirectories (name : Text) (l : Listing) : Nat → (titled first : Bool) → List Text → Program Int
  | 0, _, _, _ => return 0
  | _, _, _, [] => return 0
  | k + 1, titled, first, d :: ds => do
    match ← Program.inTree fun t here => entriesOf l t here d with
    | .error e =>
      complainOf name (lit "cannot open directory " ++ Quoting.always d) e
      return max 2 (← showDirectories name l k true first ds)
    | .ok es =>
      let es := ordered l es
      let now ← Program.look fun _ s => s.now
      let title := if titled ∨ l.recursive then (if first then [] else ['\n']) ++ styled l.style d ++ [':', '\n'] else []
      let total := if l.layout = .long ∨ l.blocks then
          lit "total " ++ shownBlocks l ((es.map Entry.blocks).foldl (· + ·) 0) ++ l.ending
        else []
      let dead := if l.follow = .all ∧ looksClosely l then es.filter (·.node.isLink) else []
      for e in dead do
        complainOf name (lit "cannot access " ++ Quoting.always (if d = ['.'] then e.name else e.path)) .noEntry
      put name (title ++ total ++ shownEntries l now es) 2
      let below := if l.recursive then
          (es.filter fun e => e.node.isDirectory && e.name ≠ ['.'] && e.name ≠ ['.', '.']).map fun e => Path.join d e.name
        else []
      let status ← showDirectories name l k true false (below ++ ds)
      return if dead.isEmpty then status else max 1 status

/-- Shows operands. -/
def showOperands (name : Text) (l : Listing) (operands : List Text) : Program Int := do
  let looked ← operands.mapM fun p => do
    let dereferenced ← Program.inTree fun t here => entryAt t here true p p
    let plain ← Program.inTree fun t here => entryAt t here false p p
    let leads : Bool := dereferenced.toOption.any fun e => e.node.isDirectory
    let chosen := if l.follow ≠ .none ∨ (l.followOperands ∧ leads) then dereferenced else plain
    match chosen with
    | .ok e => return some e
    | .error e =>
      complainOf name (lit "cannot access " ++ Quoting.always p) e
      return none
  let es := ordered l (looked.filterMap id)
  let isShown (e : Entry) : Bool := l.plainDirectories || !e.node.isDirectory
  let files := es.filter isShown
  let directories := (es.filter (!isShown ·)).map (·.name)
  let now ← Program.look fun _ s => s.now
  if files ≠ [] then put name (shownEntries l now files ++ if directories = [] then [] else ['\n']) 2
  let titled : Bool := files ≠ [] ∨ ¬ (operands.length ≤ 1 ∧ directories.length = 1)
  let status ← showDirectories name l 100000 titled true directories
  return if looked.any Option.isNone then 2 else status

/-- The words for layouts. -/
def layoutChoices : List (List Text) :=
  [[lit "verbose", lit "long"], [lit "commas"], [lit "horizontal", lit "across"], [lit "vertical"], [lit "single-column"]]

/-- The words for orders. -/
def orderChoices : List (List Text) :=
  [[lit "none"], [lit "time"], [lit "size"], [lit "extension"], [lit "version"], [lit "width"]]

/-- The words for marks. -/
def markChoices : List (List Text) := [[lit "none"], [lit "slash"], [lit "file-type"], [lit "classify"]]

/-- The words for when something is done. -/
def whenChoices : List (List Text) :=
  [[lit "always", lit "yes", lit "force"], [lit "never", lit "no", lit "none"], [lit "auto", lit "tty", lit "if-tty"]]

/-- The words for quoting. -/
def styleChoices : List (List Text) :=
  [[lit "literal"], [lit "shell"], [lit "shell-always"], [lit "shell-escape"], [lit "shell-escape-always"], [lit "c"],
   [lit "c-maybe"], [lit "escape"], [lit "locale"], [lit "clocale"]]

/-- The words for which time is shown. -/
def timeChoices : List (List Text) :=
  [[lit "atime", lit "access", lit "use"], [lit "ctime", lit "status"], [lit "mtime", lit "modification"],
   [lit "birth", lit "creation"]]

/-- The options of listings. -/
def listingOptions : List Known :=
  [flag 'a' (lit "all"), flag 'b' (lit "escape"), flag 'd' (lit "directory"), flag 'D' (lit "dired"), named (lit "full-time"),
   flag 'g', flag 'h' (lit "human-readable"), flag 'i' (lit "inode"), flag 'k' (lit "kibibytes"), flag 'l', flag 'm',
   flag 'n' (lit "numeric-uid-gid"), flag 'N' (lit "literal"), flag 'o', flag 'p', flag 'q' (lit "hide-control-chars"),
   named (lit "show-control-chars"), flag 'Q' (lit "quote-name"), flag 'r' (lit "reverse"), flag 's' (lit "size"), flag 't', flag 'u',
   flag 'v', valued 'w' (lit "width"), flag 'x', flag 'A' (lit "almost-all"), flag 'B' (lit "ignore-backups"), flag 'c', flag 'C',
   flag 'f', { letter := some 'F', name := [] }, { letter := none, name := lit "classify", takes := .optional },
   named (lit "file-type"), flag 'G' (lit "no-group"), named (lit "group-directories-first"), flag 'H' (lit "dereference-command-line"),
   named (lit "dereference-command-line-symlink-to-dir"), named (lit "hide") .value, named (lit "indicator-style") .value,
   valued 'I' (lit "ignore"), flag 'L' (lit "dereference"), flag 'R' (lit "recursive"), flag 'S', valued 'T' (lit "tabsize"), flag 'U',
   flag 'X', flag 'Z' (lit "context"), flag '1', named (lit "color") .optional, named (lit "format") .value, named (lit "sort") .value,
   named (lit "time") .value, named (lit "time-style") .value, named (lit "quoting-style") .value, named (lit "block-size") .value,
   named (lit "si"), named (lit "author"), named (lit "hyperlink") .optional, named (lit "zero")]

/-- A listing after an option. -/
def Listing.after (name : Text) (l : Listing) (g : Given) : Program Listing := do
  let v := g.value.getD []
  let pick (option : String) (choices : List (List Text)) : Program Nat := choose name (lit option) choices v 1
  if g.key = lit "classify" then
    match g.value with
    | none => return { l with marking := .all }
    | some _ => return if (← pick "--classify" whenChoices) = 0 then { l with marking := .all } else l
  else if g.key = lit "file-type" then return { l with marking := .kinds }
  else if g.key = lit "indicator-style" then
    return { l with marking := ([Marking.none, .directories, .kinds, .all][← pick "--indicator-style" markChoices]?).getD .none }
  else if g.key = lit "format" then
    return { l with layout := ([Layout.long, .commas, .rows, .columns, .lines][← pick "--format" layoutChoices]?).getD .lines }
  else if g.key = lit "sort" then
    return { l with ordering := ([SortedBy.none, .time, .size, .extension, .version, .name][← pick "--sort" orderChoices]?).getD .name }
  else if g.key = lit "color" then
    if g.value.isSome then discard <| pick "--color" whenChoices
    return l
  else if g.key = lit "time" then
    discard <| pick "--time" timeChoices
    return l
  else if g.key = lit "quoting-style" then
    let styles : List NameStyle := [.plain, .shell, .shellAlways, .shell, .shellAlways, .quotes, .quotes, .escaped, .plain, .plain]
    return { l with style := (styles[← pick "--quoting-style" styleChoices]?).getD .plain }
  else if g.key = lit "time-style" then
    let format := if v = lit "full-iso" then some (lit "%Y-%m-%d %H:%M:%S.%N %z") else if v = lit "long-iso" then some (lit "%Y-%m-%d %H:%M")
      else if v.head? = some '+' then some (v.drop 1) else none
    return { l with timeFormat := format }
  else if g.key = lit "full-time" then return { l with layout := .long, timeFormat := some (lit "%Y-%m-%d %H:%M:%S.%N %z") }
  else if g.key = lit "group-directories-first" then return { l with directoriesFirst := true }
  else if g.key = lit "hide" then return if l.hidden then l else { l with ignored := v :: l.ignored }
  else if g.key = lit "zero" then return { l with ending := ['\x00'], style := .plain, layout := if l.layout = .long then .long else .lines }
  else match g.key with
    | ['a'] => return { l with hidden := true, own := true }
    | ['A'] => return { l with hidden := true, own := false }
    | ['B'] => return { l with ignored := lit "*~" :: l.ignored }
    | ['I'] => return { l with ignored := v :: l.ignored }
    | ['b'] => return { l with style := .escaped }
    | ['N'] => return { l with style := .plain }
    | ['q'] => return { l with style := if l.style = .plain then .questions else l.style }
    | ['Q'] => return { l with style := .quotes }
    | ['d'] => return { l with plainDirectories := true }
    | ['f'] => return { l with hidden := true, own := true, ordering := .none }
    | ['F'] => return { l with marking := .all }
    | ['p'] => return { l with marking := .directories }
    | ['l'] => return { l with layout := .long }
    | ['g'] => return { l with layout := .long, owner := false }
    | ['o'] => return { l with layout := .long, group := false }
    | ['n'] => return { l with layout := .long, numeric := true }
    | ['G'] => return { l with group := false }
    | ['h'] => return { l with human := true }
    | ['i'] => return { l with inodes := true }
    | ['s'] => return { l with blocks := true }
    | ['m'] => return { l with layout := .commas }
    | ['x'] => return { l with layout := .rows }
    | ['C'] => return { l with layout := .columns }
    | ['1'] => return { l with layout := if l.layout = .long then .long else .lines }
    | ['r'] => return { l with reversed := true }
    | ['R'] => return { l with recursive := true }
    | ['S'] => return { l with ordering := .size }
    | ['t'] => return { l with ordering := .time }
    | ['X'] => return { l with ordering := .extension }
    | ['v'] => return { l with ordering := .version }
    | ['U'] => return { l with ordering := .none }
    | ['L'] => return { l with follow := .all }
    | ['H'] => return { l with follow := .operands }
    | ['w'] =>
      if let some n := decimal? v then return { l with width := n }
      complainWith name (lit "invalid line width: ") v []
      Program.exit 2
    | _ => return l

/-- Lists files and directories, where a listing says how it looks at first. -/
def list (start : Listing) : Utility := fun name args => do
  let (given, operands) ← options name listingOptions args true 2
  let columns := ((← Program.task).environment.get? (lit "COLUMNS")).getD []
  let width := (decimal? columns).getD 80
  let l ← given.foldlM (Listing.after name) { start with width }
  let l := { l with followOperands := !(l.plainDirectories || l.marking = .all || l.layout = .long) }
  if operands = [] then
    if l.plainDirectories then showOperands name l [['.']] else showDirectories name l 100000 false true [['.']]
  else showOperands name l operands

/-- Lists files and directories. -/
def ls : Utility := list {}

/-- Lists files and directories in columns. -/
def dir : Utility := list { layout := .columns, style := .escaped }

/-- Lists files and directories with all that is known of them. -/
def vdir : Utility := list { layout := .long, style := .escaped }

/-! ## What is known of a file -/

/-- What a node is called. -/
def kindName (n : Node) : Text := kindOf n

/-- What a letter of a format stands for. -/
def statField (e : Entry) (letter : Char) : Option Text :=
  let seconds := e.node.modified.fdiv 1000000000
  let date := Calendar.text (lit "%Y-%m-%d %H:%M:%S.%N %z") e.node.modified
  match letter with
  | 'n' => some e.path
  | 'N' => some (Quoting.always e.path ++ match e.node.content with
    | .link t => lit " -> " ++ Quoting.always t
    | _ => [])
  | 'a' => some (Nat.toDigits 8 e.node.mode)
  | 'A' => some (kindLetter e.node :: Permission.letters e.node.mode)
  | 'b' => some (Text.ofNat (2 * e.blocks))
  | 'B' => some (lit "512")
  | 's' => some (Text.ofNat e.size)
  | 'F' => some (kindName e.node)
  | 'f' =>
    let kind := match e.node.content with
      | .directory _ _ => 0o040000
      | .link _ => 0o120000
      | .device _ => 0o020000
      | _ => 0o100000
    some (Nat.toDigits 16 (kind + e.node.mode))
  | 'h' => some (Text.ofNat e.links)
  | 'i' => some (Text.ofNat e.place)
  | 'o' => some (lit "4096")
  | 'u' | 'g' => some ['0']
  | 'U' | 'G' => some (lit "root")
  | 'd' => some (lit "1")
  | 'D' => some (lit "1")
  | 't' | 'T' => some ['0']
  | 'm' => some ['/']
  | 'x' | 'y' | 'z' | 'w' => some date
  | 'X' | 'Y' | 'Z' | 'W' => some (Text.ofInt seconds)
  | 'C' => some ['?']
  | _ => none

/-- A format with the fields of an entry put in, at most so many characters; escapes are replaced if `escapes`. -/
def statFormat (e : Entry) (escapes : Bool) : Nat → Text → Text
  | 0, _ | _, [] => []
  | k + 1, '%' :: '%' :: t => '%' :: statFormat e escapes k t
  | k + 1, '%' :: t =>
    let flags := t.takeWhile fun c => c ∈ ['-', '0', '+', ' ', '#']
    let rest := t.drop flags.length
    let width := rest.takeWhile Char.isDigit
    match rest.drop width.length with
    | c :: rest =>
      match statField e c with
      | some f =>
        let n := Floating.ofDigits 10 width
        let shown := if '-' ∈ flags then left n f else if '0' ∈ flags then List.replicate (n - f.length) '0' ++ f else right n f
        shown ++ statFormat e escapes k rest
      | none => '?' :: statFormat e escapes k rest
    | [] => ['%']
  | k + 1, '\\' :: c :: t =>
    if !escapes then '\\' :: statFormat e escapes k (c :: t)
    else match Escape.character? true false (c :: t) with
      | some (x, rest) => x :: statFormat e escapes k rest
      | none => c :: statFormat e escapes k t
  | k + 1, c :: t => c :: statFormat e escapes k t

/-- Shows what is known of files. -/
def statUtility : Utility := fun name args => do
  let (given, operands) ← options name
    [flag 'L' (lit "dereference"), flag 'f' (lit "file-system"), valued 'c' (lit "format"), named (lit "printf") .value,
     flag 't' (lit "terse"), named (lit "cached") .value] args
  if operands = [] then missingOperand name
  forEach (fun p => do
    match ← Program.inTree fun t here => entryAt t here (hasLetter given 'L') p p with
    | .error e =>
      complainOf name (lit "cannot statx " ++ Quoting.always p) e
      return 1
    | .ok e =>
      match lastOf? given [['c'], lit "printf"] with
      | some { key := ['c'], value := some f } => put name (statFormat e false f.length f ++ ['\n'])
      | some { value := some f, .. } => put name (statFormat e true f.length f)
      | _ =>
        put name (statFormat e false 1000 (lit "  File: %N\n  Size: %-10s\tBlocks: %-10b IO Block: %-6o %F\nDevice: 0,1\tInode: %-11i Links: %h\nAccess: (%04a/%10A)  Uid: (    0/    root)   Gid: (    0/    root)\nAccess: %x\nModify: %y\nChange: %z\n Birth: %w\n"))
      return 0) operands

end Buildfile.Utility
