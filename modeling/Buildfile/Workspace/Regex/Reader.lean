import Buildfile.Workspace.Regex
/-!
# Reading regular expressions

A regular expression is written in one of two ways: a basic one, in which parentheses, braces and bars need a
backslash to mean something, or an extended one, in which they lose their meaning after a backslash. A strict reader
refuses extended signs that have nothing to do.

`Regex.read` reads them all.
-/

namespace Buildfile.Regex

/-- Why a text is no regular expression. -/
inductive Fault where
  | unmatchedBracket
  | unmatchedOpen
  | unmatchedClose
  | unmatchedBrace
  | badInterval
  | badRange
  | badClass
  | badCollation
  | trailingBackslash
  | badReference
  | badRepetition
  | tooBig
  deriving DecidableEq, Inhabited

/-- The wording of a fault. -/
def Fault.message : Fault → Text
  | unmatchedBracket => lit "Unmatched [, [^, [:, [., or [="
  | unmatchedOpen => lit "Unmatched ( or \\("
  | unmatchedClose => lit "Unmatched ) or \\)"
  | unmatchedBrace => lit "Unmatched \\" ++ ['{']
  | badInterval => lit "Invalid content of \\" ++ ['{', '\\', '}']
  | badRange => lit "Invalid range end"
  | badClass => lit "Invalid character class name"
  | badCollation => lit "Invalid collation character"
  | trailingBackslash => lit "Trailing backslash"
  | badReference => lit "Invalid back reference"
  | badRepetition => lit "Invalid preceding regular expression"
  | tooBig => lit "Regular expression too big"

/-- How regular expressions are written. -/
inductive Dialect where
  | basic
  | extended
  /-- Extended, where a sign that has nothing to do is a fault. -/
  | strict
  deriving DecidableEq, Inhabited

/-- Whether signs mean something without a backslash. -/
def Dialect.isExtended (d : Dialect) : Bool := d ≠ .basic

/-! ## Bracket expressions -/

/-- The name between a mark after a bracket and the same mark before a bracket, and the rest. -/
def bracketName? (mark : Char) : Text → Option (Text × Text)
  | [] | [_] => none
  | c :: d :: t =>
    if c = mark ∧ d = ']' then some ([], t) else (bracketName? mark (d :: t)).map fun r => (c :: r.1, r.2)

/-- One character of a bracket expression, and the rest. -/
def bracketChar (t : Text) : Except Fault (Char × Text) :=
  match t with
  | [] => .error .unmatchedBracket
  | '[' :: m :: r =>
    if m = '.' ∨ m = '=' then
      match bracketName? m r with
      | some ([c], rest) => .ok (c, rest)
      | some _ => .error .badCollation
      | none => .error .unmatchedBracket
    else .ok ('[', m :: r)
  | c :: r => .ok (c, r)

/-- The parts of a bracket expression of a bounded length, and the text after it; its first character may be a
closing bracket. -/
def bracketItems : Nat → (first : Bool) → Text → Except Fault (List BracketItem × Text)
  | 0, _, _ => .error .unmatchedBracket
  | k + 1, first, t =>
    match t with
    | [] => .error .unmatchedBracket
    | ']' :: r =>
      if first then ranged k ']' r else .ok ([], r)
    | '[' :: ':' :: r =>
      match bracketName? ':' r with
      | none => .error .unmatchedBracket
      | some (name, rest) =>
        match CharClass.ofName? name with
        | none => .error .badClass
        | some c => do
          let (items, rest) ← bracketItems k false rest
          return (.named c :: items, rest)
    | t => do
      let (c, rest) ← bracketChar t
      ranged k c rest
where
  /-- A character that may start a range, and what follows. -/
  ranged (k : Nat) (c : Char) (t : Text) : Except Fault (List BracketItem × Text) :=
    match t with
    | '-' :: ']' :: r => .ok ([.range c c, .range '-' '-'], r)
    | '-' :: r => do
      let (d, rest) ← bracketChar r
      if d < c then throw .badRange
      let (items, rest) ← bracketItems k false rest
      return (.range c d :: items, rest)
    | t => do
      let (items, rest) ← bracketItems k false t
      return (.range c c :: items, rest)

/-- A bracket expression after its opening bracket, and the text after it. -/
def bracket (t : Text) : Except Fault (Regex × Text) := do
  let negated := t.head? = some '^'
  let (items, rest) ← bracketItems (t.length + 1) true (if negated then t.drop 1 else t)
  return (.set negated items, rest)

/-! ## Intervals -/

/-- The greatest number of repetitions. -/
def maxRepeats : Nat := 32767

/-- The numbers of an interval after its brace, and the text after it. -/
def interval (d : Dialect) (t : Text) : Except Fault (Nat × Option Nat × Text) :=
  let digits (t : Text) : Option Nat × Text :=
    let ds := t.takeWhile Char.isDigit
    (if ds = [] then none else some (ds.foldl (fun n c => 10 * n + (c.toNat - '0'.toNat)) 0), t.drop ds.length)
  let close (least : Nat) (most : Option Nat) (t : Text) : Except Fault (Nat × Option Nat × Text) :=
    let rest? := if d.isExtended then (match t with
        | '}' :: r => some r
        | _ => none)
      else match t with
        | '\\' :: '}' :: r => some r
        | _ => none
    match rest? with
    | none => .error (if t = [] then .unmatchedBrace else .badInterval)
    | some r =>
      if most.any (· < least) then .error .badInterval
      else if maxRepeats < max least (most.getD 0) then .error .tooBig
      else .ok (least, most, r)
  match digits t with
  | (some n, ',' :: t) =>
    let (m, t) := digits t
    close n m t
  | (some n, t) => close n (some n) t
  | (none, ',' :: t) =>
    let (m, t) := digits t
    close 0 m t
  | (none, t) => .error (if t = [] then .unmatchedBrace else .badInterval)

/-! ## Expressions -/

/-- What is left to read, and how many groups have been opened and closed. -/
structure Source where
  rest : Text
  opened : Nat := 0
  closed : List Nat := []
  deriving Inhabited

/-- A reading of a regular expression. -/
abbrev Reading := StateT Source (Except Fault)

/-- A sign of a regular expression. -/
inductive Sign where
  | open
  | close
  | bar
  | star
  | plus
  | question
  | brace
  | dot
  | bracket
  | caret
  | dollar
  | escaped (c : Char)
  | plain (c : Char)
  deriving DecidableEq, Inhabited

/-- The sign at the start of a text, and the rest. -/
def sign? (d : Dialect) (t : Text) : Except Fault (Option (Sign × Text)) :=
  let active (c : Char) : Option Sign :=
    match c with
    | '(' => some .open
    | ')' => some .close
    | '|' => some .bar
    | '+' => some .plus
    | '?' => some .question
    | '{' => some .brace
    | _ => none
  match t with
  | [] => .ok none
  | ['\\'] => .error .trailingBackslash
  | '\\' :: c :: r =>
    .ok (some (if d.isExtended then .escaped c else (active c).getD (.escaped c), r))
  | '*' :: r => .ok (some (.star, r))
  | '.' :: r => .ok (some (.dot, r))
  | '[' :: r => .ok (some (.bracket, r))
  | '^' :: r => .ok (some (.caret, r))
  | '$' :: r => .ok (some (.dollar, r))
  | c :: r => .ok (some (if d.isExtended then (active c).getD (.plain c) else .plain c, r))

/-- The next sign, which is not taken. -/
def peek (d : Dialect) : Reading (Option (Sign × Text)) := do sign? d (← get).rest

/-- Goes on after a sign. -/
def skipTo (rest : Text) : Reading Unit := modify fun s => { s with rest }

/-- What stands for itself, or for a class of characters, after a backslash. -/
def ofEscaped (c : Char) : Regex :=
  let word : List BracketItem := [.named .alnum, .range '_' '_']
  match c with
  | 'w' => .set false word
  | 'W' => .set true word
  | 's' => .set false [.named .space]
  | 'S' => .set true [.named .space]
  | '<' => .wordStart
  | '>' => .wordEnd
  | 'b' => .wordEdge
  | 'B' => .noWordEdge
  | '`' => .textStart
  | '\'' => .textFinish
  | 'n' => .char '\n'
  | 't' => .char '\t'
  | c => .char c

/-- Whether a dollar sign is at an end, given what follows it. -/
def endsHere (d : Dialect) (rest : Text) : Bool :=
  d.isExtended || match sign? d rest with
    | .ok none | .ok (some (.close, _)) | .ok (some (.bar, _)) => true
    | _ => false

/-- The repetitions after a part of an expression, at most so many. -/
def repetitions (d : Dialect) : Nat → Regex → Reading Regex
  | 0, r => return r
  | k + 1, r => do
    match ← peek d with
    | some (.star, rest) =>
      skipTo rest
      repetitions d k (.times r 0 none)
    | some (.plus, rest) =>
      skipTo rest
      repetitions d k (.times r 1 none)
    | some (.question, rest) =>
      skipTo rest
      repetitions d k (.times r 0 (some 1))
    | some (.brace, rest) =>
      match interval d rest with
      | .ok (least, most, rest) =>
        skipTo rest
        repetitions d k (.times r least most)
      | .error f => if d = .extended ∧ f ≠ .tooBig then return r else throw f
    | _ => return r

mutual

/-- Alternatives, in at most so many steps. -/
def alternatives (d : Dialect) : Nat → (inside : Bool) → Reading Regex
  | 0, _ => throw .tooBig
  | k + 1, inside => do
    let a ← sequence d k inside true none
    match ← peek d with
    | some (.bar, rest) =>
      skipTo rest
      return .alt a (← alternatives d k inside)
    | _ => return a

/-- Parts one after another, after those that have been read. -/
def sequence (d : Dialect) : Nat → (inside first : Bool) → Option Regex → Reading Regex
  | 0, _, _, _ => throw .tooBig
  | k + 1, inside, first, done => do
    let go (r : Regex) (rest : Text) (repeats : Bool := true) : Reading Regex := do
      skipTo rest
      let r ← if repeats then repetitions d (rest.length + 1) r else pure r
      sequence d k inside false (some (done.elim r fun a => .seq a r))
    match ← peek d with
    | none | some (.bar, _) => return done.getD .empty
    | some (.close, rest) =>
      if inside then return done.getD .empty
      else if d = .extended then go (.char ')') rest
      else throw .unmatchedClose
    | some (.open, rest) =>
      let n := (← get).opened + 1
      modify fun s => { s with rest, opened := n }
      let r ← alternatives d k true
      match ← peek d with
      | some (.close, rest) =>
        modify fun s => { s with closed := n :: s.closed }
        go (.group n r) rest
      | _ => throw .unmatchedOpen
    | some (.caret, rest) =>
      if d.isExtended ∨ first then
        skipTo rest
        let r : Regex := .start
        sequence d k inside (!d.isExtended) (some (done.elim r fun a => .seq a r))
      else go (.char '^') rest
    | some (.dollar, rest) => if endsHere d rest then go .finish rest d.isExtended else go (.char '$') rest
    | some (.star, rest) =>
      if d = .strict ∨ (!first ∧ d = .extended) then throw .badRepetition
      else if d = .extended then
        skipTo rest
        sequence d k inside true done
      else go (.char '*') rest
    | some (.plus, rest) => if d = .strict then throw .badRepetition else go (.char '+') rest
    | some (.question, rest) => if d = .strict then throw .badRepetition else go (.char '?') rest
    | some (.brace, rest) =>
      if d = .extended then go (.char '{') rest else throw .badRepetition
    | some (.dot, rest) => go .any rest
    | some (.bracket, rest) => do
      let (r, rest) ← bracket rest
      go r rest
    | some (.escaped c, rest) =>
      if '1' ≤ c ∧ c ≤ '9' then
        let n := c.toNat - '0'.toNat
        if (← get).closed.contains n then go (.back n) rest else throw .badReference
      else go (ofEscaped c) rest
    | some (.plain c, rest) => go (.char c) rest

end

/-- Reads a regular expression; the number of its groups comes with it. -/
def read (d : Dialect) (t : Text) : Except Fault (Regex × Nat) := do
  let (r, s) ← (alternatives d (4 * t.length + 4) false).run { rest := t }
  return (r, s.opened)

/-- Whether a bracket expression looks like the name of a class that should stand in brackets of its own. -/
def isBareClass (items : List BracketItem) : Bool :=
  let colon : BracketItem := .range ':' ':'
  2 < items.length && items.head? = some colon && items.getLast? = some colon && items.all fun i => match i with
    | .range a b => a == b
    | .named _ => false

/-- Whether a name of a class stands in single brackets in a regular expression. -/
def hasBareClass : Regex → Bool
  | .set _ items => isBareClass items
  | .group _ r | .times r _ _ => hasBareClass r
  | .seq a b | .alt a b => hasBareClass a || hasBareClass b
  | _ => false

/-- What is said of a name of a class in single brackets. -/
def bareClassMessage : Text := lit "character class syntax is [[:space:]], not [:space:]"

end Buildfile.Regex
