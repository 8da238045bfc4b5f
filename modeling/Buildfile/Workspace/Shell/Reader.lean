import Buildfile.Workspace.Shell.Source
/-!
# Reading scripts

A script is read line by line, since what one line does may change how the next one is read. A line is read to
its end with all that it opens, and then the documents that it announces.

Words are read in a context, which says what ends them and what is quoted in them. A word that ends a command
in one place may be an argument in another, so what the next token may be is known to the source.
-/

namespace Buildfile.Shell

/-- Where the pieces of a word are read. -/
inductive Context where
  /-- Among other words: a blank or an operator ends them. -/
  | script
  /-- Between braces. -/
  | braces
  /-- Between double quotes, which may stand between braces. -/
  | quotes (inBraces : Bool)
  /-- Between braces inside double quotes; more quotes keep a brace from ending them. -/
  | quotedBraces
  /-- In an expression. -/
  | arithmetic
  /-- In a document, where quotes stand for themselves. -/
  | document
  deriving DecidableEq, Inhabited

namespace Context

/-- Whether text in a context is quoted. -/
def quoted : Context → Bool
  | script | braces => false
  | _ => true

/-- Whether a context stands between braces. -/
def inBraces : Context → Bool
  | braces | quotes true | quotedBraces => true
  | _ => false

/-- The context between braces inside another one. -/
def inner : Context → Context
  | script | braces => .braces
  | _ => .quotedBraces

end Context

/-- A character that ends an unquoted word. -/
def endsWord (c : Char) : Bool := [' ', '\t', '\n', ';', '&', '|', '<', '>', '(', ')'].contains c

/-- A list of commands is read up to something that depends on where it stands. -/
inductive Extent where
  /-- It is a line of the script. -/
  | line
  /-- It is a part of a command, and holds something. -/
  | block
  /-- It may be empty. -/
  | any
  deriving DecidableEq, Inhabited

namespace Reading

/-! ## Words -/

/-- Pieces in reverse, and the text of each in reverse, with one more character. -/
def push (quoted : Bool) (c : Char) : List Piece → List Piece
  | .text q t :: ps => if q = quoted then .text q (c :: t) :: ps else .text quoted [c] :: .text q t :: ps
  | ps => .text quoted [c] :: ps

/-- Pieces in reverse put in order. -/
def inOrder (ps : List Piece) : List Piece :=
  ps.foldl (fun ps p => match p with
    | .text q t => .text q t.reverse :: ps
    | p => p :: ps) []

/-- Refuses the end of the script in a context. -/
def unfinished {α : Type} (x : Context) : Reading α := do
  let inDocument := (← get).inside.isSome
  match x with
  | .arithmetic => refuse (lit "Missing '))'")
  | .braces => refuse (lit "Missing '" ++ [Char.ofNat 125, '\''])
  | _ => if inDocument then refuse (lit "Missing '" ++ [Char.ofNat 125, '\'']) else refuse (lit "Unterminated quoted string")

/-- Marks the word as quoted. -/
def markQuoted : Reading Unit := modify fun s => { s with quoted := true }

/-- The characters up to a single quote, after those that have been taken. -/
def singleQuoted : Nat → Text → Reading Text
  | 0, t => return t.reverse
  | n + 1, t => do
    match ← next with
    | none => unfinished (.quotes false)
    | some '\'' =>
      markQuoted
      return t.reverse
    | some c =>
      if c = '\n' then
        addLine
        if ← endsDocument then unfinished (.quotes true)
      singleQuoted n (c :: t)

/-- Whether a backslash before a character stays in a context, where the document may be as a whole. -/
def keepsBackslash (x : Context) (inDocument : Bool) (c : Char) : Bool :=
  x.quoted && !(c == '\\' || c == '`' || c == '$') && (c != '"' || (inDocument && !x.inBraces)) && (c != '}' || !x.inBraces)

/-- The script between backquotes, without the escapes that it needs there, after what has been taken. -/
def backquotedText (quoted : Bool) : Nat → Text → Reading Text
  | 0, t => return t.reverse
  | n + 1, t => do
    match ← nextJoined with
    | none => refuse (lit "EOF in backquote substitution")
    | some '`' => return t.reverse
    | some '\\' =>
      match ← next with
      | none => refuse (lit "EOF in backquote substitution")
      | some c =>
        if c = '\\' ∨ c = '`' ∨ c = '$' ∨ (quoted ∧ c = '"') then backquotedText quoted n (c :: t)
        else backquotedText quoted n (c :: '\\' :: t)
    | some c =>
      if c = '\n' then addLine
      backquotedText quoted n (c :: t)

/-- The use of a parameter that the characters after its name say, before the word that belongs to it is read;
nothing more is read if there is none. A use that is not known has a word too. -/
def useOf (x : Context) : Reading (Option (Context × (List Piece → Use))) := do
  let fallback (orEmpty : Bool) (c : Option Char) : Option (Option (Context × (List Piece → Use))) :=
    let use (k : Fallback) := some (some (x.inner, fun ps => Use.fallback k orEmpty ps))
    match c with
    | some '-' => use .word
    | some '+' => use .replace
    | some '?' => use .fail
    | some '=' => use .assign
    | some '}' => if orEmpty then none else some none
    | _ => none
  let c ← nextJoined
  match c with
  | some ':' =>
    let c ← nextJoined
    return (fallback true c).getD (some (x.inner, fun _ => .unknown))
  | some '%' =>
    let longest ← nextIf '%'
    return some (.braces, fun ps => .trim false longest ps)
  | some '#' =>
    let longest ← nextIf '#'
    return some (.braces, fun ps => .trim true longest ps)
  | _ => return (fallback false c).getD (some (x.inner, fun _ => .unknown))

/-- The name of a parameter between braces, and the use that is said before it: its length, or one that is not
known. -/
def bracedName (x : Context) : Reading (Text × Option (Context × (List Piece → Use))) := do
  let unknown : Option (Context × (List Piece → Use)) := some (x.inner, fun _ => .unknown)
  let length : Option (Context × (List Piece → Use)) := some (x.inner, fun _ => .length)
  let rest (c : Char) : Reading Text := takeWhile (if c.isDigit then Char.isDigit else isNameChar) bound [c]
  match ← nextJoined with
  | none => return ([], unknown)
  | some c =>
    if startsName c ∨ c.isDigit then return (← rest c, ← useOf x)
    else if c = '}' then
      unread (some c)
      return ([], unknown)
    else if c = '#' then
      match ← nextJoined with
      | none => return (['#'], ← useOf x)
      | some d =>
        if startsName d ∨ d.isDigit then
          let name ← rest d
          if ← nextIf '}' then
            unread (some '}')
            return (name, length)
          return (name, unknown)
        else
          let e ← nextJoined
          if d = '}' ∨ e ≠ some '}' then
            unread e
            unread (some d)
            return (['#'], ← useOf x)
          else
            unread e
            return ([d], if isSpecialName d then length else unknown)
    else if isSpecialName c then return ([c], ← useOf x)
    else return ([], unknown)

/-! ## Tokens -/

/-- Whether a word is a descriptor in front of a redirection. -/
def descriptor? : Word → Option (Option Nat)
  | [] => some none
  | [.text false [d]] => if d.isDigit then some (some (d.toNat - '0'.toNat)) else none
  | _ => none

/-- The direction of a redirection whose first sign has been read, the descriptor that it is about if none is
named, and whether its document loses its tabs. -/
def direction (sign : Char) : Reading (Nat × Direction × Bool) := do
  if sign = '>' then
    if ← nextIf '>' then return (1, .append, false)
    if ← nextIf '|' then return (1, .overwrite, false)
    if ← nextIf '&' then return (1, .duplicate, false)
    return (1, .output, false)
  else
    if ← nextIf '<' then return (0, .document 0, ← nextIf '-')
    if ← nextIf '&' then return (0, .duplicate, false)
    if ← nextIf '>' then return (0, .both, false)
    return (0, .input, false)

/-- Ends with a token. -/
def found (t : Token) : Reading Token := do
  modify fun s => { s with token := t }
  return t

/-- Sets what the next token may be. -/
def check (c : Checks) : Reading Unit := modify fun s => { s with checks := c }

/-- The start of a command may be a keyword or an alias. -/
def atCommand : Checks := { keywords := true, aliases := true }

/-- The start of a command on this line or another one. -/
def atAnyCommand : Checks := { lineEnds := true, keywords := true, aliases := true }

/-- Reads the last token again. -/
def hold : Reading Unit := modify fun s => { s with held := true }

/-- Refuses the last token. -/
def unexpected {α : Type} (expected : Option Token := none) : Reading α := do
  let found := (← get).token.shown ++ lit " unexpected"
  match expected with
  | none => refuse found
  | some t => refuse (found ++ lit " (expecting " ++ t.shown ++ [')'])

/-- Leaves out the rest of a line. -/
def skipComment : Nat → Reading Unit
  | 0 => return ()
  | n + 1 => do
    match ← next with
    | some '\n' => unread (some '\n')
    | none => return ()
    | some _ => skipComment n

/-- One action after another. -/
def andThen : Option Action → Action → Action
  | none, b => b
  | some a, b => .sequence a b

/-- An action whose end is not waited for. -/
def inBackground : Action → Action
  | .piped _ actions => .piped true actions
  | .redirected line a rs => .background line a rs
  | a => .background 0 a []

/-- The words of all parameters. -/
def allParameters : Word := [.quotes [.parameter ['@'] .value]]

mutual

/-- The pieces of a word in a context, after those that have been read. Between braces more quotes may be
open, and in an expression so many parentheses. -/
def pieces : Nat → Context → (toggled : Bool) → (parentheses : Nat) → List Piece → Reading (List Piece)
  | 0, _, _, _, ps => return inOrder ps
  | n + 1, x, toggled, parentheses, ps => do
    let goOn (ps : List Piece) : Reading (List Piece) := pieces n x toggled parentheses ps
    let plain (c : Char) : Reading (List Piece) := pieces n x toggled parentheses (push x.quoted c ps)
    match ← nextJoined with
    | none => if x = .script ∨ x = .document then return inOrder ps else unfinished x
    | some c =>
      match c with
      | '\n' =>
        if x = .script then
          unread (some c)
          return inOrder ps
        addLine
        if ← endsDocument then
          if x = .document then return inOrder (push x.quoted c ps) else unfinished x
        plain c
      | '\\' =>
        match ← next with
        | none => goOn (push true c ps)
        | some d =>
          let inDocument := (← get).inside.isSome
          markQuoted
          goOn (push true d (if keepsBackslash x inDocument d then push true c ps else ps))
      | '\'' =>
        if x.quoted then plain c
        else goOn (.quotes [.text true (← singleQuoted bound [])] :: ps)
      | '"' =>
        match x with
        | .script => goOn (.quotes (← pieces n (.quotes false) false 0 []) :: ps)
        | .braces => goOn (.quotes (← pieces n (.quotes true) false 0 []) :: ps)
        | .quotes _ =>
          markQuoted
          return inOrder ps
        | .quotedBraces =>
          markQuoted
          pieces n x (!toggled) parentheses ps
        | _ => plain c
      | '`' =>
        if (← get).checks.mark then
          markQuoted
          plain c
        else goOn (.output (← backquoted n x.quoted) :: ps)
      | '$' =>
        match ← dollar n x with
        | some p => goOn (p :: ps)
        | none => plain c
      | '}' =>
        if x = .braces ∨ (x = .quotedBraces ∧ !toggled) then return inOrder ps
        plain c
      | _ =>
        if x = .script ∧ endsWord c then
          unread (some c)
          return inOrder ps
        else if x = .arithmetic ∧ c = '(' then pieces n x toggled (parentheses + 1) (push x.quoted c ps)
        else if x = .arithmetic ∧ c = ')' then
          if parentheses ≠ 0 then pieces n x toggled (parentheses - 1) (push x.quoted c ps)
          else if ← nextIf ')' then return inOrder ps
          else plain c
        else plain c

/-- What a dollar sign stands for with the characters after it, unless it stands for itself. -/
def dollar : Nat → Context → Reading (Option Piece)
  | 0, _ => return none
  | n + 1, x => do
    let c ← nextJoined
    match c with
    | none => return none
    | some d =>
      if (← get).checks.mark then
        unread c
        return none
      else if d = '(' then
        if ← nextIf '(' then return some (.arithmetic (← pieces n .arithmetic false 0 []))
        else return some (.output (← substituted n))
      else if d = '{' then
        match ← bracedName x with
        | (name, none) => return some (.parameter name .value)
        | (name, some (inner, use)) => return some (.parameter name (use (← pieces n inner false 0 [])))
      else if startsName d then return some (.parameter (← takeWhile isNameChar bound [d]) .value)
      else if isSpecialName d then return some (.parameter [d] .value)
      else
        unread c
        return none

/-- A list of commands with the documents that it announces; those that have not been read are empty. -/
def apart : Nat → Reading (Option Action) → Reading Script
  | 0, _ => return .script none []
  | _ + 1, commands => do
    let s ← get
    set { s with announced := [], documents := [], inside := none }
    let a ← commands
    let t ← get
    set { t with announced := s.announced, documents := s.documents, inside := s.inside, quoted := s.quoted }
    return .script a (t.documents.reverse ++ t.announced.map fun _ => [])

/-- The script between parentheses whose first one has been read. -/
def substituted : Nat → Reading Script
  | 0 => return .script none []
  | n + 1 => apart n do
    let a ← list n .any none
    if (← token n) ≠ .closing then unexpected (some .closing)
    return a

/-- The script between backquotes whose first one has been read. -/
def backquoted : Nat → Bool → Reading Script
  | 0, _ => return .script none []
  | n + 1, quoted => do
    let text ← backquotedText quoted bound []
    let s ← get
    set { s with layers := [{ text }], line := 1 }
    let script ← apart n (list n .any none)
    modify fun t => { t with layers := s.layers, line := s.line, held := false }
    return script

/-- The next token as it stands in the script. -/
def rawToken : Nat → Reading Token
  | 0 => found .finish
  | n + 1 => do
    let s ← get
    if s.held then
      set { s with held := false }
      return s.token
    else
      match ← nextJoined with
      | none => found .finish
      | some c =>
        match c with
        | ' ' | '\t' => rawToken n
        | '#' =>
          skipComment bound
          rawToken n
        | '\n' =>
          addLine
          found .newline
        | '&' => found (if ← nextIf '&' then .both else .background)
        | '|' => found (if ← nextIf '|' then .either else .pipe)
        | ';' => found (if ← nextIf ';' then .armEnd else .semicolon)
        | '(' => found .opening
        | ')' => found .closing
        | _ =>
          unread (some c)
          modify fun s => { s with quoted := false }
          let word ← pieces n .script false 0 []
          let sign ← nextJoined
          match descriptor? word, sign with
          | some d, some c =>
            if (c = '<' ∨ c = '>') ∧ !(← get).quoted then
              let (standard, direction, bare) ← direction c
              modify fun s => { s with redirection := (d.getD standard, direction, bare) }
              found .redirection
            else
              unread sign
              modify fun s => { s with word }
              found .word
          | _, _ =>
            unread sign
            modify fun s => { s with word }
            found .word

/-- The documents that have been announced. -/
def takeDocuments : Nat → List Announced → Reading Unit
  | 0, _ | _ + 1, [] => return ()
  | n + 1, a :: rest => do
    modify fun s => { s with inside := some a }
    let w : Word ← if ← endsDocument then pure []
      else if a.quoted then pure [.text true (← rawDocument bound [])]
      else pieces n .document false 0 []
    modify fun s => { s with inside := none, documents := w :: s.documents }
    takeDocuments n rest

/-- Reads the documents that have been announced. -/
def documents : Nat → Reading Unit
  | 0 => return ()
  | n + 1 => do
    let s ← get
    set { s with announced := [] }
    takeDocuments n s.announced

/-- The next token that is no line end, after a token. -/
def skipLineEnds : Nat → Token → Reading Token
  | 0, t => return t
  | n + 1, t => do
    if t ≠ .newline then return t
    documents n
    modify fun s => { s with checks := {} }
    skipLineEnds n (← rawToken n)

/-- The next token where the given checks apply besides those of the source. -/
def tokenWith : Nat → Checks → Reading Token
  | 0, _ => found .finish
  | n + 1, asked => do
    let t ← rawToken n
    let t ← if asked.lineEnds then skipLineEnds n t else pure t
    let s ← get
    let checks : Checks :=
      { asked with keywords := asked.keywords || s.checks.keywords, aliases := asked.aliases || s.checks.aliases }
    check {}
    if t ≠ .word ∨ s.quoted then return t
    match s.word.plain? with
    | none => return t
    | some w =>
      if checks.keywords ∧ w ∈ keywords then found (.keyword w)
      else
        match if checks.aliases then s.aliases.get? w else none with
        | none => return t
        | some value =>
          if s.layers.any (·.name = some w) then return t
          if value ≠ [] then
            let spaced : Bool := value.getLast? = some ' ' ∨ value.getLast? = some '\t'
            modify fun s => { s with layers := { text := value, name := some w, spaced } :: s.layers }
          tokenWith n checks

/-- The next token. -/
def token : Nat → Reading Token
  | 0 => found .finish
  | n + 1 => do tokenWith n (← get).checks

/-- The target of the redirection that has been read. -/
def target : Nat → Reading Redirection
  | 0 => unexpected
  | n + 1 => do
    let (descriptor, direction, bare) := (← get).redirection
    match direction with
    | .document _ =>
      check { mark := true }
      if (← token n) ≠ .word then unexpected
      let s ← get
      let number := s.documents.length + s.announced.length
      let a : Announced := { mark := Word.bareText s.word, bare, quoted := s.quoted }
      set { s with announced := s.announced ++ [a] }
      return .change descriptor (.document number) []
    | direction =>
      if (← token n) ≠ .word then unexpected
      return .change descriptor direction (← get).word

/-- The redirections after a command. -/
def redirections : Nat → Reading (List Redirection)
  | 0 => return []
  | n + 1 => do
    if (← token n) = .redirection then
      let r ← target n
      return r :: (← redirections n)
    else
      hold
      return []

/-- A list of commands, after those that have been read. -/
def list : Nat → Extent → Option Action → Reading (Option Action)
  | 0, _, done => return done
  | n + 1, extent, done => do
    check (if extent = .line then atCommand else atAnyCommand)
    let t ← token n
    if t = .newline then
      documents n
      return done
    else if t = .finish then
      documents n
      hold
      discard <| found .finish
      return done
    else
      hold
      let ends : Bool := match t with
        | .closing | .armEnd => true
        | .keyword k => closers.contains k
        | _ => false
      if ends ∧ (extent = .any ∨ (extent = .block ∧ done.isSome)) then return done
      let a ← chain n none
      let t ← token n
      let done := some (andThen done (if t = .background then inBackground a else a))
      if t = .finish then
        documents n
        hold
        discard <| found .finish
        return done
      else if t = .newline then
        hold
        list n extent done
      else if t = .background ∨ t = .semicolon then list n extent done
      else if extent = .line then unexpected
      else
        hold
        return done

/-- Pipelines joined by `&&` and `||`, after those that have been read. -/
def chain : Nat → Option (Action → Action) → Reading Action
  | 0, _ => unexpected
  | n + 1, join => do
    let b ← pipeline n
    let a := match join with
      | some f => f b
      | none => b
    let t ← token n
    if t = .both then
      check atAnyCommand
      chain n (some (.whenDone a))
    else if t = .either then
      check atAnyCommand
      chain n (some (.whenFailed a))
    else
      hold
      return a

/-- Commands joined by pipes, maybe with an exclamation mark before them. -/
def pipeline : Nat → Reading Action
  | 0 => unexpected
  | n + 1 => do
    let negated : Bool := (← token n) = .keyword ['!']
    if negated then check atCommand else hold
    let a ← command n
    let more ← piped n
    let a := if more = [] then a else .piped false (a :: more)
    return if negated then .negated a else a

/-- The commands after a pipe. -/
def piped : Nat → Reading (List Action)
  | 0 => return []
  | n + 1 => do
    if (← token n) = .pipe then
      check atAnyCommand
      let a ← command n
      return a :: (← piped n)
    else
      hold
      return []

/-- One command with its redirections. -/
def command : Nat → Reading Action
  | 0 => unexpected
  | n + 1 => do
    let line := (← get).line
    let expect (t : Token) : Reading Unit := do
      if (← token n) ≠ t then unexpected (some t)
    let block : Reading Action := return (← list n .block none).getD default
    let close (a : Action) : Reading Action := do
      check atCommand
      match ← redirections n with
      | [] => return a
      | rs =>
        match a with
        | .apart l a _ => return .apart l a rs
        | a => return .redirected line a rs
    match ← token n with
    | .word | .redirection =>
      hold
      simple n
    | .opening =>
      let a ← block
      expect .closing
      close (.apart line a [])
    | .keyword k =>
      if k = ['{'] then
        let a ← block
        expect (.keyword ['}'])
        close a
      else if k = lit "if" then
        let a ← condition n
        expect (.keyword (lit "fi"))
        close a
      else if k = lit "while" ∨ k = lit "until" then
        let test ← block
        expect (.keyword (lit "do"))
        let body ← block
        expect (.keyword (lit "done"))
        close (.loop (k = lit "while") test body)
      else if k = lit "for" then
        let t ← token n
        let s ← get
        let name := if t = .word ∧ !s.quoted then s.word.plain?.filter isName else none
        match name with
        | none => refuse (lit "Bad for loop variable")
        | some name =>
          check atAnyCommand
          let t ← token n
          let words ← if t = .keyword (lit "in") then do
              let ws ← words n
              if (← get).token ≠ .newline ∧ (← get).token ≠ .semicolon then unexpected
              pure ws
            else do
              if t ≠ .semicolon then hold
              pure [allParameters]
          check atAnyCommand
          expect (.keyword (lit "do"))
          let body ← block
          expect (.keyword (lit "done"))
          close (.forEach line name words body)
      else if k = lit "case" then
        if (← token n) ≠ .word then unexpected (some .word)
        let subject := (← get).word
        check atAnyCommand
        expect (.keyword (lit "in"))
        let arms ← arms n
        close (.select line subject arms)
      else unexpected
    | _ => unexpected

/-- What follows `if` or `elif`, up to the end of the whole. -/
def condition : Nat → Reading Action
  | 0 => unexpected
  | n + 1 => do
    let test := (← list n .block none).getD default
    let t ← token n
    if t ≠ .keyword (lit "then") then unexpected (some (.keyword (lit "then")))
    let yes := (← list n .block none).getD default
    let t ← token n
    if t = .keyword (lit "elif") then return .ifElse test yes (some (← condition n))
    else if t = .keyword (lit "else") then return .ifElse test yes (← list n .block none)
    else
      hold
      return .ifElse test yes none

/-- Words up to another token. -/
def words : Nat → Reading (List Word)
  | 0 => return []
  | n + 1 => do
    if (← token n) = .word then
      let w := (← get).word
      return w :: (← words n)
    else return []

/-- The patterns of an arm, of which the first one has been read as a token. -/
def patterns : Nat → Reading (List Word)
  | 0 => return []
  | n + 1 => do
    let w := (← get).word
    if (← token n) = .pipe then
      discard <| token n
      return w :: (← patterns n)
    else return [w]

/-- The arms of a `case`, with its end. -/
def arms : Nat → Reading (List Arm)
  | 0 => return []
  | n + 1 => do
    check { lineEnds := true, keywords := true }
    let t ← token n
    if t = .keyword (lit "esac") then return []
    if t = .opening then discard <| token n
    let patterns ← patterns n
    if (← get).token ≠ .closing then unexpected (some .closing)
    let body ← list n .any none
    check { lineEnds := true, keywords := true }
    let t ← token n
    if t = .keyword (lit "esac") then return [.arm patterns body]
    if t ≠ .armEnd then unexpected (some .armEnd)
    return .arm patterns body :: (← arms n)

/-- A command made of words and redirections, or the definition of a function. -/
def simple : Nat → Reading Action
  | 0 => unexpected
  | n + 1 => do simpleAfter n (← get).line true [] [] []

/-- The rest of a command on a line, after the assignments, words and redirections that have been read, the
latest first. Assignments come before words. -/
def simpleAfter : Nat → (line : Nat) → (first : Bool) → List Word → List Word → List Redirection → Reading Action
  | 0, _, _, _, _, _ => unexpected
  | n + 1, line, first, assignments, words, rs => do
    check { aliases := first }
    match ← token n with
    | .word =>
      let w := (← get).word
      if first ∧ (assignment? w).isSome then simpleAfter n line first (w :: assignments) words rs
      else simpleAfter n line false assignments (w :: words) rs
    | .redirection =>
      let r ← target n
      simpleAfter n line first assignments words (r :: rs)
    | t =>
      match t, words, assignments, rs with
      | .opening, [w], [], [] =>
        if (← token n) ≠ .closing then unexpected (some .closing)
        match w.plain? with
        | some name =>
          if !isName name ∨ name ∈ specialBuiltins then refuse (lit "Bad function name")
          check atAnyCommand
          return .define name (← command n)
        | none => refuse (lit "Bad function name")
      | _, _, _, _ =>
        hold
        return .simple line assignments.reverse words.reverse rs.reverse

end

/-! ## Scripts -/

/-- Reads the next line with all that it opens; nothing is left after the last line. -/
def nextLine : Reading (Option Script) := do
  modify fun s => { s with held := false, checks := {}, announced := [], documents := [], inside := none }
  let a ← list bound .line none
  let s ← get
  if s.held ∧ s.token = .finish ∧ a.isNone then return none
  return some (.script a s.documents.reverse)

/-- Reads a text as the words between double quotes. -/
def quotedText (t : Text) : Except Misread Word :=
  StateT.run' (pieces bound .document false 0 []) ({ layers := [{ text := t }] } : Source)

end Reading

end Buildfile.Shell
