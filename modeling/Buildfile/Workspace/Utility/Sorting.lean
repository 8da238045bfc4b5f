import Buildfile.Workspace.Utility.Fields
import Buildfile.Workspace.Utility.Listing
/-!
# Sorting

Utilities that put lines in order, and that compare lines which are in order. What lines are compared by is a
list of keys, each a part of a line with an order of its own; lines whose keys are equal are compared as they
are.
-/

namespace Buildfile.Utility

/-! ## Keys -/

/-- How a key is compared. -/
structure KeyOrder where
  blanks : Bool := false
  /-- Whether only blanks, letters and digits count. -/
  dictionary : Bool := false
  fold : Bool := false
  printable : Bool := false
  numeric : Bool := false
  general : Bool := false
  human : Bool := false
  month : Bool := false
  version : Bool := false
  reverse : Bool := false
  deriving DecidableEq, Inhabited

/-- A part of a line. -/
structure Key where
  field : Nat := 0
  char : Nat := 0
  lastField : Option Nat := none
  lastChar : Nat := 0
  blanks : Bool := false
  lastBlanks : Bool := false
  order : KeyOrder := {}
  /-- Whether the key has an order of its own. -/
  own : Bool := false
  deriving DecidableEq, Inhabited

/-- A blank between fields. -/
def isFieldBlank (c : Char) : Bool := c == ' ' || c == '\t' || c == '\n'

/-- A line without so many fields at its start. -/
def skipFields (tab : Option Char) : Nat → Text → Text
  | 0, t => t
  | n + 1, t =>
    match tab with
    | some d => skipFields tab n ((t.dropWhile (· ≠ d)).drop 1)
    | none => skipFields tab n ((t.dropWhile isFieldBlank).dropWhile (!isFieldBlank ·))

/-- The number of characters up to the end of so many fields; the separator after them counts if `more`. -/
def fieldsLength (tab : Option Char) (more : Bool) : Nat → Text → Nat
  | 0, _ => 0
  | n + 1, t =>
    match tab with
    | some d =>
      let k := (t.takeWhile (· ≠ d)).length
      if k < t.length ∧ (n ≠ 0 ∨ more) then k + 1 + fieldsLength tab more n (t.drop (k + 1))
      else k
    | none =>
      let rest := (t.dropWhile isFieldBlank).dropWhile (!isFieldBlank ·)
      (t.length - rest.length) + fieldsLength tab more n rest

/-- The part of a line that a key stands for. -/
def Key.part (k : Key) (tab : Option Char) (line : Text) : Text :=
  let rest := skipFields tab k.field line
  let rest := if k.blanks then rest.dropWhile isFieldBlank else rest
  let start := line.length - (rest.drop k.char).length
  let stop := match k.lastField with
    | none => line.length
    | some f =>
      let f := if k.lastChar = 0 then f + 1 else f
      let n := fieldsLength tab (k.lastChar ≠ 0) f line
      if k.lastChar = 0 then n
      else
        let after := line.drop n
        let blanks := if k.lastBlanks then (after.takeWhile isFieldBlank).length else 0
        min line.length (n + blanks + k.lastChar)
  (line.take stop).drop start

/-! ## Comparisons -/

/-- A number as it is written: its sign, its digits before the point without zeros at the start, and those after
it without zeros at the end. -/
def numberParts (t : Text) : Bool × Text × Text :=
  let t := t.dropWhile isFieldBlank
  let negative : Bool := t.head? = some '-'
  let t := if negative then t.drop 1 else t
  let whole := t.takeWhile Char.isDigit
  let after := t.drop whole.length
  let fraction := if after.head? = some '.' then (after.drop 1).takeWhile Char.isDigit else []
  (negative, whole.dropWhile (· == '0'), (fraction.reverse.dropWhile (· == '0')).reverse)

/-- Texts compared by their characters. -/
def compareTexts (a b : Text) : Ordering :=
  if a = b then .eq else if Text.precedes a b then .lt else .gt

/-- Numbers as they are written, compared. -/
def compareNumbers (a b : Text) : Ordering :=
  let (n, w, f) := numberParts a
  let (m, v, g) := numberParts b
  let size := (compare w.length v.length).then ((compareTexts w v).then (compareTexts f g))
  let negative (sign : Bool) (w f : Text) : Bool := sign && !(w = [] && f = [])
  if negative n w f then (if negative m v g then size.swap else .lt)
  else if negative m v g then .gt
  else size

/-- Numbers with a floating point, compared; what is no number comes first. -/
def compareGeneral (a b : Text) : Ordering :=
  let rank (t : Text) : Nat × Floating :=
    match Floating.read? .extended t with
    | some (.undefined s, _) => (1, .undefined s)
    | some (x, _) => (2, x)
    | none => (0, .undefined false)
  let (i, x) := rank a
  let (j, y) := rank b
  (compare i j).then (if i = 2 then (if Floating.less x y then .lt else if Floating.less y x then .gt else .eq) else .eq)

/-- The place of the unit after a number among all units. -/
def unitRank (t : Text) : Int :=
  let (negative, w, f) := numberParts t
  let rest := t.dropWhile isFieldBlank
  let rest := if rest.head? = some '-' then rest.drop 1 else rest
  let rest := rest.dropWhile fun c => c.isDigit || c == '.'
  let rank : Int := match rest.head? with
    | some c => if w = [] ∧ f = [] then 0 else (((lit "KMGTPEZYRQ").findIdx? (· == (if c = 'k' then 'K' else c))).map fun i => (i : Int) + 1).getD 0
    | none => 0
  if negative then -rank else rank

/-- The number of the month that a text starts with; zero if there is none. -/
def monthRank (t : Text) : Nat :=
  let w := ((t.dropWhile isFieldBlank).take 3).map Char.toLower
  ((Calendar.monthNames.findIdx? fun n => (n.take 3).map Char.toLower = w).map (· + 1)).getD 0

/-- A key as it is compared as text. -/
def KeyOrder.text (o : KeyOrder) (t : Text) : Text :=
  let t := if o.dictionary then t.filter fun c => isFieldBlank c || c.isAlphanum else t
  let t := if o.printable then t.filter fun c => ' ' ≤ c && c.toNat < 127 else t
  if o.fold then t.map Char.toUpper else t

/-- Two keys compared. -/
def KeyOrder.compare (o : KeyOrder) (a b : Text) : Ordering :=
  let r :=
    if o.numeric then compareNumbers a b
    else if o.general then compareGeneral a b
    else if o.human then (Ord.compare (unitRank a) (unitRank b)).then (compareNumbers a b)
    else if o.month then Ord.compare (monthRank a) (monthRank b)
    else if o.version then
      let (x, y) := (o.text a, o.text b)
      let (p, q) := (versionParts x.length x, versionParts y.length y)
      if p = q then .eq else if versionPrecedes p q then .lt else .gt
    else compareTexts (o.text a) (o.text b)
  if o.reverse then r.swap else r

/-- How lines are put in order. -/
structure Sorting where
  keys : List Key := []
  tab : Option Char := none
  order : KeyOrder := {}
  stable : Bool := false
  unique : Bool := false
  last : Char := '\n'
  deriving Inhabited

/-- Lines compared by their keys. -/
def Sorting.compareKeys (s : Sorting) (a b : Text) : Ordering :=
  if s.keys = [] then
    let part (t : Text) : Text := if s.order.blanks then t.dropWhile isFieldBlank else t
    s.order.compare (part a) (part b)
  else
    s.keys.foldl (fun r k => r.then ((if k.own then k.order else s.order).compare (k.part s.tab a) (k.part s.tab b))) .eq

/-- Lines compared. -/
def Sorting.compare (s : Sorting) (a b : Text) : Ordering :=
  match s.compareKeys a b with
  | .eq =>
    if s.stable ∨ s.unique then .eq
    else
      let r := compareTexts a b
      if s.order.reverse then r.swap else r
  | r => r

/-- Lines without those that are equal to the one before. -/
def withoutEqual (same : Text → Text → Bool) : List Text → List Text
  | a :: b :: rest => if same a b then withoutEqual same (a :: rest) else a :: withoutEqual same (b :: rest)
  | ls => ls
termination_by ls => ls.length

/-- Lines that are in order, put together from several lists that are; at most so many. -/
def mergeLines (le : Text → Text → Bool) : Nat → List (List Text) → List Text
  | 0, _ => []
  | k + 1, lists =>
    let lists := lists.filter (· ≠ [])
    match lists.map (·.headD []) with
    | [] => []
    | h :: hs =>
      let (best, index, _) := hs.foldl (fun (best, i, j) l => if le best l then (best, i, j + 1) else (l, j, j + 1)) (h, 0, 1)
      best :: mergeLines le k (lists.modify index (·.drop 1))

/-- Lines in order. -/
def Sorting.sort (s : Sorting) (ls : List Text) : List Text :=
  let sorted := ls.mergeSort fun a b => s.compare a b ≠ .gt
  if s.unique then withoutEqual (fun a b => s.compareKeys a b = .eq) sorted else sorted

/-! ## Options of keys -/

/-- An order with the option of a letter, if the letter is one. -/
def KeyOrder.with? (o : KeyOrder) (c : Char) : Option KeyOrder :=
  match c with
  | 'd' => some { o with dictionary := true }
  | 'f' => some { o with fold := true }
  | 'g' => some { o with general := true }
  | 'h' => some { o with human := true }
  | 'i' => some { o with printable := true }
  | 'M' => some { o with month := true }
  | 'n' => some { o with numeric := true }
  | 'r' => some { o with reverse := true }
  | 'V' => some { o with version := true }
  | 'b' => some { o with blanks := true }
  | 'R' => some o
  | _ => none

/-- The letters of the options of an order that do not go together, if there are any. -/
def KeyOrder.conflict? (o : KeyOrder) : Option Text :=
  let kinds := [o.numeric, o.general, o.human, o.month, o.version || o.dictionary || o.printable].filter id
  if 1 < kinds.length then
    some ((if o.dictionary then ['d'] else []) ++ (if o.general then ['g'] else []) ++ (if o.human then ['h'] else []) ++
      (if o.printable ∧ !o.dictionary then ['i'] else []) ++ (if o.month then ['M'] else []) ++ (if o.numeric then ['n'] else []) ++
      if o.version then ['V'] else [])
  else none

/-- Why a key cannot be understood: what is wrong, and the text that is. -/
abbrev KeyFault := Text × Text

/-- The options of letters at the end of a position in a key. -/
def Key.withLetters (k : Key) (last : Bool) : Text → Key × Text
  | c :: t =>
    match k.order.with? c with
    | some o =>
      let k := if c = 'b' then (if last then { k with lastBlanks := true, own := true } else { k with blanks := true, own := true })
        else { k with order := o, own := true }
      Key.withLetters k last t
    | none => (k, c :: t)
  | [] => (k, [])

/-- The key that a text stands for. -/
def Key.ofText? (t : Text) : Except KeyFault Key :=
  let number (what : String) (rest : Text) : Except KeyFault (Nat × Text) :=
    let ds := rest.takeWhile Char.isDigit
    if ds = [] then .error (lit what ++ lit ": invalid count at start of ", rest)
    else .ok (Floating.ofDigits 10 ds, rest.drop ds.length)
  let whole (what : String) : KeyFault := (lit what ++ lit ": invalid field specification ", t)
  match number "invalid number at field start" t with
  | .error f => .error f
  | .ok (0, _) => .error (whole "field number is zero")
  | .ok (n + 1, rest) =>
    let char : Except KeyFault (Nat × Text) := match rest with
      | '.' :: r =>
        match number "invalid number after '.'" r with
        | .ok (0, _) => .error (whole "character offset is zero")
        | .ok (c + 1, r) => .ok (c, r)
        | .error f => .error f
      | r => .ok (0, r)
    char.bind fun (c, rest) =>
      let (k, rest) := Key.withLetters { field := n, char := c } false rest
      match rest with
      | [] => .ok k
      | ',' :: r =>
        match number "invalid number after ','" r with
        | .error f => .error f
        | .ok (0, _) => .error (whole "field number is zero")
        | .ok (m + 1, r) =>
          let last : Except KeyFault (Nat × Text) := match r with
            | '.' :: r => number "invalid number after '.'" r
            | r => .ok (0, r)
          last.bind fun (c, r) =>
            let (k, r) := Key.withLetters { k with lastField := some m, lastChar := c } true r
            if r = [] then .ok k else .error (whole "stray character in field spec")
      | _ => .error (whole "stray character in field spec")

/-! ## Putting lines in order -/

/-- The words for orders. -/
def sortWords : List (List Text) :=
  [[lit "general-numeric"], [lit "human-numeric"], [lit "month"], [lit "numeric"], [lit "random"], [lit "version"]]

/-- The words for checks. -/
def checkWords : List (List Text) := [[lit "quiet", lit "silent"], [lit "diagnose-first"]]

/-- The options of `sort`. -/
def sortOptions : List Known :=
  [flag 'b' (lit "ignore-leading-blanks"), { letter := some 'c', name := [] }, { name := lit "check", takes := .optional }, flag 'C',
   flag 'd' (lit "dictionary-order"), flag 'f' (lit "ignore-case"), flag 'g' (lit "general-numeric-sort"),
   flag 'h' (lit "human-numeric-sort"), flag 'i' (lit "ignore-nonprinting"), valued 'k' (lit "key"), flag 'm' (lit "merge"),
   flag 'M' (lit "month-sort"), flag 'n' (lit "numeric-sort"), valued 'o' (lit "output"), flag 'r' (lit "reverse"),
   flag 'R' (lit "random-sort"), flag 's' (lit "stable"), valued 'S' (lit "buffer-size"), valued 't' (lit "field-separator"),
   valued 'T' (lit "temporary-directory"), flag 'u' (lit "unique"), flag 'V' (lit "version-sort"), flag 'z' (lit "zero-terminated"),
   named (lit "sort") .value, named (lit "parallel") .value, named (lit "debug"), named (lit "batch-size") .value]

/-- Puts lines in order. -/
def sort : Utility := fun name args => do
  let (given, operands) ← options name sortOptions args true 2
  let fail {α : Type} (before word : Text) : Program α := do
    complainWith name before word []
    Program.exit 2
  let order ← given.foldlM (fun (o : KeyOrder) g => do
    if g.key = lit "sort" then
      let letter := (['g', 'h', 'M', 'n', 'R', 'V'][← choose name (lit "--sort") sortWords (g.value.getD [])]?).getD 'n'
      return (o.with? letter).getD o
    match g.key with
    | [c] => return if c ∈ ['k', 'o', 'S', 't', 'T'] then o else (o.with? c).getD o
    | _ => return o) ({} : KeyOrder)
  let keys ← (given.filter (·.key = ['k'])).mapM fun g => do
    match Key.ofText? (g.value.getD []) with
    | .ok k => return { k with blanks := k.blanks || (!k.own && order.blanks), lastBlanks := k.lastBlanks || (!k.own && order.blanks) }
    | .error (before, word) => fail before word
  let tab ← match value? given ['t'] with
    | none => pure none
    | some [] => do
      complain name (lit "empty tab")
      Program.exit 2
    | some [c] => pure (some c)
    | some ['\\', '0'] => pure (some '\x00')
    | some t => fail (lit "multi-character tab ") t
  for o in order :: keys.map Key.order do
    if let some letters := o.conflict? then
      complain name (lit "options '-" ++ letters ++ lit "' are incompatible")
      Program.exit 2
  let s : Sorting :=
    { keys, tab, order, stable := hasLetter given 's', unique := hasLetter given 'u'
      last := if hasLetter given 'z' then '\x00' else '\n' }
  let checks := given.filter fun g => g.key ∈ [['c'], ['C'], lit "check"]
  let quiet ← match checks.getLast? with
    | some g =>
      if g.key = ['C'] then pure true
      else match g.value with
        | some w => pure ((← choose name (lit "--check") checkWords w) = 0 : Bool)
        | none => pure false
    | none => pure false
  let inputs := inputsOf operands
  if checks ≠ [] ∧ 1 < inputs.length then
    complain name (lit "extra operand " ++ Quoting.always ((inputs[1]?).getD []) ++ lit " not allowed with -c")
    Program.exit 2
  let contents ← inputs.mapM fun operand => do
    match ← openInput operand with
    | .error e =>
      complain name (lit "cannot read: " ++ Quoting.ifNeeded operand ++ lit ": " ++ e.message)
      Program.exit 2
    | .ok i =>
      let content ← Program.readAll i.fd
      i.close
      match content with
      | .ok t => return bareLines s.last t
      | .error e =>
        complain name (lit "read failed: " ++ Quoting.ifNeeded operand ++ lit ": " ++ e.message)
        Program.exit 2
  if checks ≠ [] then
    let ls := contents.flatten
    let isDisorder (a b : Text) : Bool := match s.compare a b with
      | .gt => true
      | .eq => s.unique
      | .lt => false
    match ((List.range ls.length).zip (ls.zip (ls.drop 1))).find? fun x => isDisorder x.2.1 x.2.2 with
    | some (i, _, b) =>
      if !quiet then complain name (Quoting.ifNeeded (inputs.headD []) ++ ':' :: Text.ofNat (i + 2) ++ lit ": disorder: " ++ b)
      return 1
    | none => return 0
  let sorted := if hasLetter given 'm' then
      let merged := mergeLines (fun a b => s.compare a b ≠ .gt) (contents.flatten.length + 1) contents
      if s.unique then withoutEqual (fun a b => s.compareKeys a b = .eq) merged else merged
    else s.sort contents.flatten
  let output := sorted.flatMap (· ++ [s.last])
  match value? given ['o'] with
  | none =>
    put name output 2
    return 0
  | some f =>
    match ← Program.openFile f (.write true) with
    | .error e =>
      complain name (lit "open failed: " ++ Quoting.ifNeeded f ++ lit ": " ++ e.message)
      return 2
    | .ok fd =>
      discard <| Program.write fd output
      Program.close fd
      return 0

/-! ## Lines that repeat -/

/-- Runs of lines that are the same. -/
def runs (same : Text → Text → Bool) (ls : List Text) : List (List Text) :=
  (ls.foldr (fun l out => match out with
    | (m :: ms) :: rest => if same l m then (l :: m :: ms) :: rest else [l] :: (m :: ms) :: rest
    | out => [l] :: out) ([] : List (List Text)))

/-- Shows lines without those that repeat the one before, or only some of them. -/
def uniq : Utility := fun name args => do
  let args := args.map fun a =>
    if a.length > 1 ∧ a.head? = some '-' ∧ (a.drop 1).all Char.isDigit then lit "-f" ++ a.drop 1
    else if a.length > 1 ∧ a.head? = some '+' ∧ (a.drop 1).all Char.isDigit then lit "-s" ++ a.drop 1 else a
  let (given, operands) ← options name
    [flag 'c' (lit "count"), flag 'd' (lit "repeated"), { letter := some 'D', name := [] }, { name := lit "all-repeated", takes := .optional },
     valued 'f' (lit "skip-fields"), { name := lit "group", takes := .optional }, flag 'i' (lit "ignore-case"), valued 's' (lit "skip-chars"),
     flag 'u' (lit "unique"), flag 'z' (lit "zero-terminated"), valued 'w' (lit "check-chars")] args
  let number (c : Char) (what : String) : Program (Option Nat) := do
    match value? given [c] with
    | none => return none
    | some v =>
      match decimal? v with
      | some n => return some n
      | none =>
        complain name (v ++ lit ": invalid number of " ++ lit what)
        Program.exit 1
  let fields ← number 'f' "fields to skip"
  let chars ← number 's' "bytes to skip"
  let width ← number 'w' "bytes to compare"
  let all := lastOf? given [['D'], lit "all-repeated"]
  let method ← match all.bind Given.value with
    | some w => choose name (lit "--all-repeated") [[lit "none"], [lit "prepend"], [lit "separate"]] w
    | none => pure 0
  let grouping ← match lastOf? given [lit "group"] with
    | some { value := some w, .. } => do
      pure (some (← choose name (lit "--group") [[lit "prepend"], [lit "append"], [lit "separate"], [lit "both"]] w))
    | some _ => pure (some 2)
    | none => pure none
  if grouping.isSome ∧ (hasLetter given 'c' ∨ hasLetter given 'd' ∨ all.isSome ∨ hasLetter given 'u') then
    misuse name (lit "--group is mutually exclusive with -c/-d/-D/-u")
  if hasLetter given 'c' ∧ all.isSome then
    misuse name (lit "printing all duplicated lines and repeat counts is meaningless")
  if 2 < operands.length then extraOperand name ((operands[2]?).getD [])
  let last := if hasLetter given 'z' then '\x00' else '\n'
  let input := operands.headD ['-']
  let content ← match ← openInput input with
    | .error e => do
      complainOf name (Quoting.ifNeeded input) e
      Program.exit 1
    | .ok i => do
      let content ← Program.readAll i.fd
      i.close
      match content with
      | .ok t => pure t
      | .error e => do
        complainOf name (lit "error reading " ++ Quoting.always input) e
        Program.exit 1
  let compared (l : Text) : Text :=
    let l := (skipFields none (fields.getD 0) l).drop (chars.getD 0)
    let l := (width.map l.take).getD l
    if hasLetter given 'i' then l.map Char.toLower else l
  let groups := runs (fun a b => compared a = compared b) (bareLines last content)
  let line (l : Text) : Text := l ++ [last]
  let shown : Text := match grouping, all with
    | some m, _ =>
      let body := [last].intercalate (groups.map fun g => g.flatMap line)
      (if (m = 0 ∨ m = 3) ∧ groups ≠ [] then [last] else []) ++ body ++ if (m = 1 ∨ m = 3) ∧ groups ≠ [] then [last] else []
    | none, some _ =>
      let groups := groups.filter fun g => 1 < g.length
      let body := if method = 0 then groups.flatMap fun g => g.flatMap line else [last].intercalate (groups.map fun g => g.flatMap line)
      (if method = 1 ∧ groups ≠ [] then [last] else []) ++ body
    | none, none =>
      groups.flatMap fun g =>
        let count := Text.ofNat g.length
        let before := if hasLetter given 'c' then List.replicate (7 - count.length) ' ' ++ count ++ [' '] else []
        if (!hasLetter given 'd' ∨ 1 < g.length) ∧ (!hasLetter given 'u' ∨ g.length = 1) then before ++ line (g.headD [])
        else []
  match operands[1]? with
  | none | some ['-'] =>
    put name shown
    return 0
  | some f =>
    match ← Program.openFile f (.write true) with
    | .error e =>
      complainOf name (Quoting.ifNeeded f) e
      return 1
    | .ok fd =>
      discard <| Program.write fd shown
      Program.close fd
      return 0

/-! ## Comparing files that are in order -/

/-- Lines of two lists, each with the column it is shown in. -/
def compared : Nat → List Text → List Text → List (Nat × Text)
  | 0, _, _ => []
  | _, [], [] => []
  | k + 1, a :: as, [] => (1, a) :: compared k as []
  | k + 1, [], b :: bs => (2, b) :: compared k [] bs
  | k + 1, a :: as, b :: bs =>
    if a = b then (3, a) :: compared k as bs
    else if Text.precedes a b then (1, a) :: compared k as (b :: bs)
    else (2, b) :: compared k (a :: as) bs

/-- Whether lines are in order. -/
def isOrdered (ls : List Text) : Bool := (ls.zip (ls.drop 1)).all fun p => Text.precedes p.1 p.2

/-- Shows which lines two files have in common. -/
def comm : Utility := fun name args => do
  let (given, operands) ← options name
    [flag '1', flag '2', flag '3', named (lit "check-order"), named (lit "nocheck-order"), named (lit "output-delimiter") .value,
     named (lit "total"), flag 'z' (lit "zero-terminated")] args
  match operands with
  | [] => missingOperand name
  | [a] => misuseWith name (lit "missing operand after ") a []
  | _ :: _ :: c :: _ => extraOperand name c
  | [a, b] =>
    let last := if hasLetter given 'z' then '\x00' else '\n'
    let read (f : Text) : Program (List Text) := do
      match ← readOperand f with
      | .ok t => return bareLines last t
      | .error e =>
        complainOf name (Quoting.ifNeeded f) e
        Program.exit 1
    let first ← read a
    let second ← read b
    let result := compared (first.length + second.length + 1) first second
    let between := (value? given (lit "output-delimiter")).getD ['\t']
    let isShown (n : Nat) : Bool := !hasLetter given (Char.ofNat (48 + n))
    let indent (n : Nat) : Text := ((List.range n).filter fun i => 0 < i ∧ isShown i).flatMap fun _ => between
    put name (result.flatMap fun x => if isShown x.1 then indent x.1 ++ x.2 ++ [last] else [])
    if has given (lit "total") then
      let count (n : Nat) : Text := Text.ofNat (result.filter (·.1 = n)).length
      put name (count 1 ++ between ++ count 2 ++ between ++ count 3 ++ between ++ lit "total" ++ [last])
    let unpaired : Bool := result.any (·.1 ≠ 3)
    if has given (lit "nocheck-order") ∨ (!unpaired ∧ !has given (lit "check-order")) then return 0
    let wrong := (if isOrdered first then [] else ['1']) ++ if isOrdered second then [] else ['2']
    for w in wrong do
      complain name (lit "file " ++ [w] ++ lit " is not in sorted order")
      if has given (lit "check-order") then Program.exit 1
    if wrong ≠ [] then
      complain name (lit "input is not in sorted order")
      return 1
    return 0

/-! ## Joining files -/

/-- The fields of a line. -/
def fieldsOf (tab : Option Char) (l : Text) : List Text :=
  match tab with
  | some d => Text.pieces (· == d) l
  | none => (Text.pieces isFieldBlank l).filter (· ≠ [])

/-- How lines of two files are joined. -/
structure Joining where
  first : Nat := 0
  second : Nat := 0
  tab : Option Char := none
  fold : Bool := false
  /-- The fields that are shown: the number of a file, or zero, and a position. -/
  fields : Option (List (Nat × Nat)) := none
  missing : Text := []
  deriving Inhabited

/-- The line that joins the fields of two lines. -/
def Joining.line (j : Joining) (key : Text) (a b : List Text) : Text :=
  let shown := match j.fields with
    | some fs => fs.map fun f =>
      let v := if f.1 = 0 then some key else (if f.1 = 1 then a else b)[f.2]?
      match v with
      | some (c :: t) => c :: t
      | _ => j.missing
    | none => key :: a.eraseIdx j.first ++ b.eraseIdx j.second
  [j.tab.getD ' '].intercalate shown ++ ['\n']

/-- Lines of two files joined by their keys; those that have no partner are shown if asked for. -/
def Joining.join (j : Joining) (unpaired1 unpaired2 paired : Bool) : Nat → List (List Text) → List (List Text) → Text
  | 0, _, _ => []
  | k + 1, as, bs =>
    let keyOf (i : Nat) (l : List Text) : Text :=
      let t := (l[i]?).getD []
      if j.fold then t.map Char.toLower else t
    let alone1 (a : List Text) : Text := if unpaired1 then j.line ((a[j.first]?).getD []) a [] else []
    let alone2 (b : List Text) : Text := if unpaired2 then
        match j.fields with
        | some _ => j.line ((b[j.second]?).getD []) [] b
        | none => [j.tab.getD ' '].intercalate ((b[j.second]?).getD [] :: b.eraseIdx j.second) ++ ['\n']
      else []
    match as, bs with
    | [], [] => []
    | a :: as, [] => alone1 a ++ Joining.join j unpaired1 unpaired2 paired k as []
    | [], b :: bs => alone2 b ++ Joining.join j unpaired1 unpaired2 paired k [] bs
    | a :: as, b :: bs =>
      let (x, y) := (keyOf j.first a, keyOf j.second b)
      if x = y then
        let same1 := (a :: as).takeWhile fun l => keyOf j.first l = x
        let same2 := (b :: bs).takeWhile fun l => keyOf j.second l = x
        (if paired then same1.flatMap fun p => same2.flatMap fun q => j.line ((p[j.first]?).getD []) p q else []) ++
          Joining.join j unpaired1 unpaired2 paired k ((a :: as).drop same1.length) ((b :: bs).drop same2.length)
      else if Text.precedes x y then alone1 a ++ Joining.join j unpaired1 unpaired2 paired k as (b :: bs)
      else alone2 b ++ Joining.join j unpaired1 unpaired2 paired k (a :: as) bs

/-- Joins lines of two files that have a field in common. -/
def join : Utility := fun name args => do
  let (given, operands) ← options name
    [valued 'a', valued 'e', flag 'i' (lit "ignore-case"), valued 'j', valued 'o', valued 't', valued 'v', valued '1', valued '2',
     named (lit "check-order"), named (lit "nocheck-order"), named (lit "header"), flag 'z' (lit "zero-terminated")] args
  match operands with
  | [] => missingOperand name
  | [a] => misuseWith name (lit "missing operand after ") a []
  | _ :: _ :: c :: _ => misuse name (lit "extra operand " ++ Quoting.always c)
  | [a, b] =>
    let field (c : Char) : Program (Option Nat) := do
      match value? given [c] with
      | none => return none
      | some v =>
        match decimal? v with
        | some (n + 1) => return some n
        | _ =>
          complainWith name (lit "invalid field number: ") v []
          Program.exit 1
    let both ← field 'j'
    let one ← field '1'
    let two ← field '2'
    let read (f : Text) : Program (List Text) := do
      match ← readOperand f with
      | .ok t => return bareLines '\n' t
      | .error e =>
        complainOf name (Quoting.ifNeeded f) e
        Program.exit 1
    let tab := (value? given ['t']).bind List.head?
    let fields := (value? given ['o']).map fun o =>
      ((Text.pieces (fun c => c == ',' || c == ' ') o).filter (· ≠ [])).map fun f =>
        if f = ['0'] then (0, 0)
        else ((f.headD '1').toNat - 48, Floating.ofDigits 10 (f.drop 2) - 1)
    let j : Joining :=
      { first := (one.orElse fun _ => both).getD 0, second := (two.orElse fun _ => both).getD 0, tab, fold := hasLetter given 'i'
        fields, missing := (value? given ['e']).getD [] }
    let first ← read a
    let second ← read b
    let asked (c : Char) (n : Char) : Bool := given.any fun g => g.key = [c] && g.value = some [n]
    let only := hasLetter given 'v'
    put name (j.join (asked 'a' '1' || asked 'v' '1') (asked 'a' '2' || asked 'v' '2') (!only) (first.length + second.length + 1)
      (first.map (fieldsOf tab)) (second.map (fieldsOf tab)))
    return 0

end Buildfile.Utility
