import Buildfile.Workspace.Utility.Editing.Replacement
/-!
# Reading scripts

A script comes in parts, each from an argument or from a file. A part is read command by command; the text of a command
at the end of a part may go on in the next one. A complaint says how many octets of its part had been taken when the
fault was seen, or in which line of its file.
-/

namespace Buildfile.Editing

/-! ## Faults -/

/-- Why a text is no script. -/
inductive Fault where
  | severalBangs
  | unexpectedComma
  | relativeFirst
  | openBlock
  | unexpectedClose
  | extraCharacters
  | expectedBackslash
  | closeWithAddress
  | labelWithAddress
  | commentWithAddress
  | missingCommand
  | oneAddress
  | openExpression
  | openSubstitution
  | openTranslation
  | wideDelimiter
  | unknownFlag
  | severalPrints
  | severalAlls
  | severalNumbers
  | zeroNumber
  | unequalLengths
  | laterVersion
  | lineZero
  | unknownCommand (octet : Char)
  | noLabel
  | nestedEscape
  | forbidden
  | missingFile
  | noFormerExpression
  | flagsWithoutExpression
  | noSuchGroup (n : Nat)
  | expression (f : Regex.Fault)
  deriving DecidableEq, Inhabited

/-- The wording of a fault. -/
def Fault.message : Fault → Text
  | severalBangs => lit "multiple `!'s"
  | unexpectedComma => lit "unexpected `,'"
  | relativeFirst => lit "invalid usage of +N or ~N as first address"
  | openBlock => lit "unmatched `" ++ ['{', '\'']
  | unexpectedClose => lit "unexpected `" ++ ['}', '\'']
  | extraCharacters => lit "extra characters after command"
  | expectedBackslash => lit "expected \\ after `a', `c' or `i'"
  | closeWithAddress => '`' :: '}' :: lit "' doesn't want any addresses"
  | labelWithAddress => lit ": doesn't want any addresses"
  | commentWithAddress => lit "comments don't accept any addresses"
  | missingCommand => lit "missing command"
  | oneAddress => lit "command only uses one address"
  | openExpression => lit "unterminated address regex"
  | openSubstitution => lit "unterminated `s' command"
  | openTranslation => lit "unterminated `y' command"
  | wideDelimiter => lit "delimiter character is not a single-byte character"
  | unknownFlag => lit "unknown option to `s'"
  | severalPrints => lit "multiple `p' options to `s' command"
  | severalAlls => lit "multiple `g' options to `s' command"
  | severalNumbers => lit "multiple number options to `s' command"
  | zeroNumber => lit "number option to `s' command may not be zero"
  | unequalLengths => lit "strings for `y' command are different lengths"
  | laterVersion => lit "expected newer version of sed"
  | lineZero => lit "invalid usage of line address 0"
  | unknownCommand c => lit "unknown command: `" ++ [c, '\'']
  | noLabel => lit "\":\" lacks a label"
  | nestedEscape => lit "recursive escaping after \\c not allowed"
  | forbidden => lit "e/r/w commands disabled in sandbox mode"
  | missingFile => lit "missing filename in r/R/w/W commands"
  | noFormerExpression => lit "no previous regular expression"
  | flagsWithoutExpression => lit "cannot specify modifiers on empty regexp"
  | noSuchGroup n => lit "invalid reference \\" ++ Text.ofNat n ++ lit " on `s' command's RHS"
  | expression f => f.message

/-- Where a part of a script is from: the argument with a number, or a file. -/
inductive Origin where
  | argument (n : Nat)
  | file (name : Text)
  deriving DecidableEq, Inhabited

/-- A place in a part of a script, as complaints name it. -/
def Origin.place (o : Origin) (taken line : Nat) : Text :=
  match o with
  | argument n => lit "-e expression #" ++ Text.ofNat n ++ lit ", char " ++ Text.ofNat taken ++ lit ": "
  | file name => lit "file " ++ name ++ lit " line " ++ Text.ofNat line ++ lit ": "

/-- A complaint about a script, with the status that it leads to. -/
structure Complaint where
  message : Text
  status : Int := 1
  deriving DecidableEq, Inhabited

/-! ## Taking characters -/

/-- How scripts are read. -/
structure Manner where
  extended : Bool := false
  posix : Bool := false
  /-- Whether commands that reach for other files and programs are refused. -/
  sandbox : Bool := false
  deriving DecidableEq, Inhabited

/-- How far a script has been read. -/
structure Reading where
  rest : Text := []
  /-- How many octets of the part have been taken, and the line that has been reached. -/
  taken : Nat := 0
  line : Nat := 1
  origin : Origin := .argument 1
  manner : Manner := {}
  isFirst : Bool := true
  script : Script := {}
  /-- The blocks that are open, the innermost first, with the places where they start. -/
  blocks : List (Nat × Text) := []
  /-- A command whose text may go on in the next part, and the text. -/
  pending : Option (Nat × Text) := none
  deriving Inhabited

/-- A reading of a part of a script. -/
abbrev Read := StateT Reading (Except Complaint)

/-- The number of octets of a character. -/
def width (c : Char) : Nat := (Octets.encoded [c]).length

/-- Fails with a fault. -/
def fail {α : Type} (f : Fault) : Read α := do
  let r ← get
  throw { message := r.origin.place r.taken r.line ++ f.message }

/-- Takes the next character. -/
def take? : Read (Option Char) := do
  let r ← get
  match r.rest with
  | [] => return none
  | c :: rest =>
    set { r with rest, taken := r.taken + width c, line := if c = '\n' then r.line + 1 else r.line }
    return some c

/-- Puts a character back. -/
def putBack : Option Char → Read Unit
  | none => return ()
  | some c => modify fun r =>
    { r with rest := c :: r.rest, taken := r.taken - width c, line := if c = '\n' then r.line - 1 else r.line }

/-- Fails with a fault that was seen at the first octet of a character that has been taken. -/
def failAt {α : Type} (c : Option Char) (f : Fault) : Read α := do
  modify fun r => { r with taken := r.taken - (c.elim 1 width - 1) }
  fail f

/-- Takes characters as long as they have a property. -/
def takeWhile (p : Char → Bool) : Read Text := do
  let r ← get
  let t := r.rest.takeWhile p
  set { r with
    rest := r.rest.drop t.length
    taken := t.foldl (fun n c => n + width c) r.taken
    line := r.line + t.count '\n' }
  return t

/-- A space or a tab. -/
def isBlank (c : Char) : Bool := c == ' ' || c == '\t'

/-- Takes the next character that is no space. -/
def takeVisible? : Read (Option Char) := do
  discard <| takeWhile isBlank
  take?

/-- The number that starts with a character which has been taken; a character that is no digit is put back and
makes it zero. -/
def numberFrom (c : Option Char) : Read Nat := do
  putBack c
  return Floating.ofDigits 10 (← takeWhile Char.isDigit)

/-- The end of a command: a separator is taken. -/
def endCommand : Read Unit := do
  match ← takeVisible? with
  | none | some '\n' | some ';' => return ()
  | some c => if c = '}' ∨ c = '#' then putBack (some c) else failAt (some c) .extraCharacters

/-- A label. -/
def takeLabel : Read Text := do
  discard <| takeWhile isBlank
  takeWhile fun c => !(Floating.isSpace c || c == ';' || c == '}')

/-- The name of a file, which goes up to the end of the line. -/
def takeFile : Read Text := do
  discard <| takeWhile isBlank
  let name ← takeWhile (· ≠ '\n')
  discard take?
  if name = [] then fail .missingFile
  return Octets.encoded name

/-! ## Texts between delimiters -/

/-- Where one is in a text up to a delimiter. -/
inductive Inside where
  | nothing
  /-- In a bracket expression: at its start, after a caret there, or later. -/
  | bracket (n : Nat)
  /-- In a part of a bracket expression that a mark before a bracket ends. -/
  | named (mark : Char)
  deriving DecidableEq, Inhabited

/-- The text up to a delimiter after what has been taken, in at most so many steps. A delimiter in brackets is part of
an expression. -/
def upToWithin (delimiter : Char) (isExpression : Bool) : Nat → Inside → (done : Text) → Read (Option Text)
  | 0, _, _ => return none
  | k + 1, inside, done => do
    let go (inside : Inside) (t : Text) : Read (Option Text) := upToWithin delimiter isExpression k inside (t ++ done)
    match ← take? with
    | none => return none
    | some '\n' => do
      putBack (some '\n')
      return none
    | some c =>
      match inside with
      | .nothing =>
        if c = delimiter then return some done.reverse
        else if c = '\\' then
          match ← take? with
          | none => return none
          | some d =>
            if d = delimiter then go .nothing (if !isExpression ∧ d = '&' then ['&', '\\'] else [d])
            else if d = '\n' ∨ (d = 'n' ∧ isExpression) then go .nothing ['\n']
            else go .nothing [d, '\\']
        else go (if c = '[' ∧ isExpression then .bracket 0 else .nothing) [c]
      | .bracket n =>
        if c = ']' ∧ n = 2 then go .nothing [c]
        else if c = '^' ∧ n = 0 then go (.bracket 1) [c]
        else if c = '[' then
          match (← get).rest.head? with
          | some m =>
            if m = ':' ∨ m = '.' ∨ m = '=' then do
              discard take?
              go (.named m) [m, c]
            else go (.bracket 2) [c]
          | none => go (.bracket 2) [c]
        else go (.bracket 2) [c]
      | .named m =>
        if c = m ∧ (← get).rest.head? = some ']' then do
          discard take?
          go (.bracket 2) [']', c]
        else go inside [c]

/-- The text up to a delimiter, if it comes in the same line. -/
def upTo (delimiter : Option Char) (isExpression : Bool) : Read (Option Text) := do
  match delimiter with
  | none => return none
  | some d =>
    if 1 < width d then failAt (some d) .wideDelimiter
    upToWithin d isExpression ((← get).rest.length + 1) .nothing []

/-- A text with its escapes read. -/
def unescape (p : Purpose) (t : Text) : Read Text := do
  match unescape? p t with
  | some t => return t
  | none => fail .nestedEscape

/-- What an expression looks for, which has to have so many groups. An empty one has no flags. -/
def soughtOf (t : Text) (mode : Regex.Mode) (groups : Nat := 0) : Read Sought := do
  if t = [] then
    if mode ≠ {} then fail .flagsWithoutExpression
    return {}
  match Regex.read (if (← get).manner.extended then .strict else .basic) (← unescape .expression t) with
  | .error f => fail (.expression f)
  | .ok (r, n) =>
    if r.hasBareClass then throw { message := Regex.bareClassMessage, status := 4 }
    if n < groups then fail (.noSuchGroup groups)
    return { expression := some (r, n), mode }

/-! ## Addresses -/

/-- The flags after an expression in an address. -/
def addressFlags : Nat → Regex.Mode → Read Regex.Mode
  | 0, m => return m
  | k + 1, m => do
    match ← takeVisible? with
    | some 'I' => addressFlags k { m with ignoreCase := true }
    | some 'M' => addressFlags k { m with lines := true }
    | c => do
      putBack c
      return m

/-- The address that starts with a character which has been taken, if one does. -/
def address? (c : Option Char) : Read (Option Address) := do
  match c with
  | some '/' | some '\\' =>
    let delimiter ← if c = some '\\' then take? else pure c
    match ← upTo delimiter true with
    | none => fail .openExpression
    | some t =>
      let mode ← addressFlags ((← get).rest.length + 1) {}
      return some (.found (← soughtOf t mode))
  | some '$' => return some .last
  | some '+' => return some (.after (← numberFrom (← takeVisible?)))
  | some '~' => return some (.multiple (← numberFrom (← takeVisible?)))
  | some d =>
    if !d.isDigit then return none
    let n ← numberFrom c
    match ← takeVisible? with
    | some '~' =>
      let step ← numberFrom (← takeVisible?)
      return some (if step = 0 then .line n else .every n step)
    | c =>
      putBack c
      return some (.line n)
  | none => return none

/-- The addresses of a command that starts with a character which has been taken, and the character after them. -/
def addresses (c : Option Char) : Read (Option Address × Option Address × Option Char) := do
  match ← address? c with
  | none => return (none, none, c)
  | some (.after _) | some (.multiple _) => fail .relativeFirst
  | some a =>
    let c ← takeVisible?
    let (b, c) ← if c = some ',' then do
        match ← address? (← takeVisible?) with
        | none => fail .unexpectedComma
        | some b => pure (some b, ← takeVisible?)
      else pure (none, c)
    let isFound : Bool := match b with
      | some (.found _) => true
      | _ => false
    if a = .line 0 ∧ !isFound then fail .lineZero
    return (some a, b, c)

/-! ## Texts that are put in -/

/-- The rest of a text that is put in, after its start; it goes on over lines that end with a backslash. The flag
tells whether it may go on in the next part of the script. -/
def restOfText : Nat → (done : Text) → Read (Text × Bool)
  | 0, done => return (done, false)
  | k + 1, done => do
    match ← take? with
    | none | some '\n' => return (done ++ ['\n'], false)
    | some '\\' =>
      match ← take? with
      | none => return (done ++ ['\n'], true)
      | some c => restOfText k (done ++ ['\\', c])
    | some c => restOfText k (done ++ [c])

/-- Takes the rest of the text of a command. -/
def finishText (command : Nat) (start : Text) : Read Unit := do
  let (t, goesOn) ← restOfText ((← get).rest.length + 1) start
  if goesOn then modify fun r => { r with pending := some (command, t) }
  else
    let t ← unescape .lines t
    modify fun r =>
      { r with
        pending := none
        script := { r.script with
          commands := r.script.commands.modify command fun c => { c with action := c.action.withText t } } }

/-- Takes the text of a command, from a character which has been taken. -/
def startText (command : Nat) (c : Option Char) : Read Unit := do
  match c with
  | none => fail .expectedBackslash
  | some '\\' =>
    match ← take? with
    | none => modify fun r => { r with pending := some (command, []) }
    | some '\n' => finishText command []
    | some c => finishText command [c]
  | some '\n' =>
    if (← get).manner.posix then fail .expectedBackslash
    finishText command []
  | some c =>
    if (← get).manner.posix then fail .expectedBackslash
    finishText command [c]

/-! ## Substitutions and translations -/

/-- The flags of a substitution. -/
structure Flags where
  all : Bool := false
  from? : Option Nat := none
  evaluates : Bool := false
  /-- Whether the flag for evaluation had come before the one for printing. -/
  prints : Option Bool := none
  mode : Regex.Mode := {}
  file : Option Text := none
  deriving Inhabited

/-- The flags after a substitution, after those that have been taken. -/
def substitutionFlags : Nat → Flags → Read Flags
  | 0, f => return f
  | k + 1, f => do
    match ← takeVisible? with
    | none | some '\n' | some ';' => return f
    | some 'i' | some 'I' => substitutionFlags k { f with mode := { f.mode with ignoreCase := true } }
    | some 'm' | some 'M' => substitutionFlags k { f with mode := { f.mode with lines := true } }
    | some 'e' => substitutionFlags k { f with evaluates := true }
    | some 'p' =>
      if f.prints.isSome then fail .severalPrints
      substitutionFlags k { f with prints := some f.evaluates }
    | some 'g' =>
      if f.all then fail .severalAlls
      substitutionFlags k { f with all := true }
    | some 'w' => return { f with file := some (← takeFile) }
    | some '\r' =>
      match ← take? with
      | some '\n' => return f
      | c => do
        putBack c
        fail .unknownFlag
    | some c =>
      if c = '}' ∨ c = '#' then do
        putBack (some c)
        return f
      else if c.isDigit then
        if f.from?.isSome then fail .severalNumbers
        let n ← numberFrom (some c)
        if n = 0 then fail .zeroNumber
        substitutionFlags k { f with from? := some n }
      else failAt (some c) .unknownFlag

/-- A substitution after its letter. -/
def substitution : Read Action := do
  let delimiter ← take?
  let some expression ← upTo delimiter true | fail .openSubstitution
  let some replacement ← upTo delimiter false | fail .openSubstitution
  let pieces := piecesOf (← unescape .replacement replacement)
  let f ← substitutionFlags ((← get).rest.length + 1) {}
  let sought ← soughtOf expression f.mode (greatestGroup pieces)
  if (f.evaluates ∨ f.file.isSome) ∧ (← get).manner.sandbox then fail .forbidden
  return .substitute
    { sought, pieces, all := f.all, from? := f.from?, evaluates := f.evaluates, file := f.file
      printsBefore := f.prints = some false && f.evaluates
      printsAfter := f.prints = some true || (f.prints = some false && !f.evaluates) }

/-- The letters of a translation; a backslash stands before itself and before what it would be without it. -/
def translationLetters : Text → Text
  | '\\' :: 'n' :: t => '\n' :: translationLetters t
  | '\\' :: c :: t => c :: translationLetters t
  | c :: t => c :: translationLetters t
  | [] => []

/-- A translation after its letter. -/
def translation : Read Action := do
  let delimiter ← take?
  let some source ← upTo delimiter false | fail .openTranslation
  let some target ← upTo delimiter false | fail .openTranslation
  let source := translationLetters (← unescape .letters source)
  let target := translationLetters (← unescape .letters target)
  if source.length ≠ target.length then fail .unequalLengths
  endCommand
  return .translate (source.zip target)

/-! ## Commands -/

/-- The version of the editor that scripts may ask for. -/
def version : Text := lit "4.9"

/-- Whether a version comes after another one: numbers in it count as numbers. -/
def isLater (a b : Text) : Bool :=
  let parts (t : Text) : List (Nat × Text) := (Text.pieces (· == '.') t).map fun p =>
    let ds := p.takeWhile Char.isDigit
    (Floating.ofDigits 10 ds, p.drop ds.length)
  let later (x y : Nat × Text) : Bool := y.1 < x.1 || (x.1 = y.1 && Text.precedes y.2 x.2 && x.2 ≠ y.2)
  go later (parts a) (parts b)
where
  /-- Whether the first parts that differ are later. -/
  go (later : Nat × Text → Nat × Text → Bool) : List (Nat × Text) → List (Nat × Text) → Bool
    | [], _ => false
    | _ :: _, [] => true
    | x :: xs, y :: ys => later x y || (x == y && go later xs ys)

/-- Adds a command, and gives its number. -/
def addCommand (c : Command) : Read Nat := do
  let n := (← get).script.commands.size
  modify fun r => { r with script := { r.script with commands := r.script.commands.push c } }
  return n

/-- Refuses commands that reach for other files and programs where they are not wanted. -/
def forbidInSandbox : Read Unit := do if (← get).manner.sandbox then fail .forbidden

/-- An action of one letter that has been taken, with what belongs to it; nothing if it is no such letter. -/
def plainAction? (c : Char) : Read (Option Action) := do
  let bare (a : Action) : Read (Option Action) := do
    endCommand
    return some a
  let file (f : Text → Action) : Read (Option Action) := do
    forbidInSandbox
    return some (f (← takeFile))
  let number? : Read (Option Nat) := do
    let c ← takeVisible?
    if c.any Char.isDigit then return some (← numberFrom c)
    putBack c
    return none
  match c with
  | '=' => bare .showNumber
  | 'd' => bare .delete
  | 'D' => bare .deleteFirst
  | 'F' => bare .showName
  | 'g' => bare .get
  | 'G' => bare .getMore
  | 'h' => bare .hold
  | 'H' => bare .holdMore
  | 'n' => bare .next
  | 'N' => bare .nextMore
  | 'p' => bare .print
  | 'P' => bare .printFirst
  | 'x' => bare .exchange
  | 'z' => bare .empty
  | 'l' =>
    let n ← number?
    bare (.list n)
  | 'L' =>
    discard number?
    bare (.unsupported 'L')
  | 'q' =>
    let n ← number?
    bare (.quit (n.getD 0) true)
  | 'Q' =>
    let n ← number?
    bare (.quit (n.getD 0) false)
  | 'r' => file .readFile
  | 'R' => file .readLine
  | 'w' => file .write
  | 'W' => file .writeFirst
  | 's' => return some (← substitution)
  | 'y' => return some (← translation)
  | 'b' => return some (.branch .always (← takeLabel))
  | 't' => return some (.branch .replaced (← takeLabel))
  | 'T' => return some (.branch .notReplaced (← takeLabel))
  | _ => return none

/-- Reads the command after its addresses, which starts with a character that has been taken. -/
def command (first second : Option Address) (negated : Bool) (c : Option Char) : Read Unit := do
  let add (a : Action) : Read Nat := addCommand { first, second, negated, action := a }
  match c with
  | none => fail .missingCommand
  | some '#' =>
    if first.isSome then fail .commentWithAddress
    let r ← get
    if r.isFirst ∧ r.taken = 1 ∧ r.rest.head? = some 'n' ∧ (r.rest.drop 1).head?.all (· = '\n') then
      modify fun r => { r with script := { r.script with quiet := true } }
    discard <| takeWhile (· ≠ '\n')
    discard take?
  | some 'v' =>
    if isLater (← takeLabel) version then fail .laterVersion
  | some ':' =>
    if first.isSome then fail .labelWithAddress
    let l ← takeLabel
    if l = [] then fail .noLabel
    modify fun r => { r with script := { r.script with labels := (l, r.script.commands.size) :: r.script.labels } }
  | some '{' =>
    let n ← add (.openBlock 0)
    modify fun r => { r with blocks := (n, r.origin.place 0 r.line) :: r.blocks }
  | some 'a' =>
    let n ← add (.append [])
    startText n (← takeVisible?)
  | some 'i' =>
    let n ← add (.insert [])
    startText n (← takeVisible?)
  | some 'c' =>
    let n ← add (.change [])
    startText n (← takeVisible?)
  | some 'e' =>
    forbidInSandbox
    let n ← add (.execute [])
    match ← takeVisible? with
    | none | some '\n' => return ()
    | c => startText n c
  | some c =>
    if c = '}' then
      match (← get).blocks with
      | [] => fail .unexpectedClose
      | (n, _) :: blocks =>
        if first.isSome then fail .closeWithAddress
        endCommand
        let past ← add .closeBlock
        modify fun r =>
          { r with
            blocks
            script := { r.script with
              commands := r.script.commands.modify n fun c => { c with action := .openBlock past } } }
    else if second.isSome ∧ (c = 'q' ∨ c = 'Q') then fail .oneAddress
    else
      match ← plainAction? c with
      | some a => discard <| add a
      | none => failAt (some c) (.unknownCommand ((Octets.encoded [c]).headD c))

/-- Reads the commands of a part, at most so many. -/
def commands : Nat → Read Unit
  | 0 => return ()
  | k + 1 => do
    discard <| takeWhile fun c => Floating.isSpace c || c == ';'
    let c ← take?
    if c.isNone then return ()
    let (first, second, c) ← addresses c
    let negated : Bool := c = some '!'
    let c ← if negated then takeVisible? else pure c
    if negated ∧ c = some '!' then fail .severalBangs
    command first second negated c
    commands k

/-- Reads a part of a script. -/
def readPart (origin : Origin) (manner : Manner) (t : Text) : Read Unit := do
  let rest := Octets.decoded t
  modify fun r => { r with rest, taken := 0, line := 1, origin, manner }
  if let some (n, start) := (← get).pending then finishText n start
  commands (rest.length + 1)
  modify fun r => { r with isFirst := false }

/-- Reads the end of a script: blocks have to be closed, and branches lead to labels. -/
def readEnd : Read Script := do
  if let (_, place) :: _ := (← get).blocks then throw { message := place ++ Fault.openBlock.message }
  if let some (n, t) := (← get).pending then
    modify fun r =>
      { r with script := { r.script with
        commands := r.script.commands.modify n fun c => { c with action := c.action.withText t } } }
  let s := (← get).script
  if let l :: _ := s.missingLabels then
    throw { message := lit "can't find label for jump to `" ++ Octets.encoded l ++ ['\''], status := 4 }
  return s

end Buildfile.Editing
