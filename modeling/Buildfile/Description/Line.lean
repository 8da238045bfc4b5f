import Buildfile.Rule
import Buildfile.Text.Blank
/-!
# Lines of a description

Each line is understood on its own. A line that is blank or whose first word starts with `#` is
skipped; a line that starts with a tab is a command; of the others, the first colon or equals sign
decides between the head of a rule and an assignment, and `:=` is an assignment.

`Line.read` gives what a line says, or the fault that makes it unreadable. A comment on the head of
a rule is cut off only after the line has been told apart from an assignment.
-/

namespace Buildfile.Description

/-- What a line is, as told from its first characters and its first colon or equals sign. -/
inductive LineKind where
  | skip
  | command
  | target
  | variable
  | invalid
  deriving DecidableEq, Repr, Inhabited

/-- The kind of a line. -/
def LineKind.of (l : Text) : LineKind :=
  if l.trimStart = [] ∨ l.trimStart.head? = some '#' then .skip
  else if l.head? = some '\t' then .command
  else match l.dropWhile fun c => c != ':' && c != '=' with
    | ':' :: '=' :: _ => .variable
    | ':' :: _ => .target
    | '=' :: _ => .variable
    | _ => .invalid

/-- The text up to its comment: a `#` at the start or after a blank, on the last line of the text.
The argument `fresh` tells whether a word could start here. -/
def dropCommentFrom (fresh : Bool) : Text → Text
  | [] => []
  | c :: t =>
    if c = '#' ∧ fresh then
      match t.dropWhile (· != '\n') with
      | [] => []
      | ['\n'] => ['\n']
      | _ => c :: dropCommentFrom false t
    else c :: dropCommentFrom (isBlank c) t

/-- The head of a rule without its comment. -/
def dropComment (l : Text) : Text := dropCommentFrom true l

/-- Why a line cannot be understood. -/
inductive Fault where
  /-- A command before the head of any rule. -/
  | orphanCommand
  /-- No name before the colon. -/
  | missingTarget
  /-- A name with more than one wildcard. -/
  | manyWildcards (name : Name)
  /-- No name before the equals sign. -/
  | missingVariable
  /-- Neither a colon nor an equals sign; the line may be indented with blanks. -/
  | unrecognised (indented : Bool)
  deriving DecidableEq, Repr, Inhabited

/-- The wording of a fault. -/
def Fault.message : Fault → Text
  | orphanCommand => lit "command found before any target"
  | missingTarget => lit "missing target name before ':'"
  | manyWildcards name => lit "pattern target '" ++ name ++ lit "' has more than one '%'"
  | missingVariable => lit "missing variable name before '='"
  | unrecognised false => lit "expected a target, variable or command line"
  | unrecognised true => lit "expected a target, variable or command line (commands must be indented with a tab)"

/-- What a line says. -/
inductive Line where
  | skip
  | command (silent : Bool) (text : Text)
  | heading (names dependencies : List Name)
  | assignment (name value : Text)
  deriving DecidableEq, Repr, Inhabited

namespace Line

/-- A command line after its tab; a leading `@` makes the command silent. -/
def ofCommand (t : Text) : Line :=
  match t.trim with
  | '@' :: rest => .command true (Text.trim rest)
  | text => .command false text

/-- The first name with more than one wildcard. -/
def manyWildcards? (names : List Name) : Option Name := names.find? fun n => 1 < n.count wildcard

/-- The head of a rule, without its comment: names, a colon, dependencies. -/
def ofHeading (t : Text) : Except Fault Line :=
  let (head, tail) := t.breakAt ':'
  match head.words with
  | [] => .error .missingTarget
  | names =>
    match manyWildcards? names with
    | some n => .error (.manyWildcards n)
    | none => .ok (.heading names (Text.words tail))

/-- The name before an equals sign, without one colon at its end. -/
def variableName (t : Text) : Text :=
  let name := t.trim
  if name.getLast? = some ':' then Text.trimEnd name.dropLast else name

/-- An assignment: a name, an equals sign, a value. -/
def ofAssignment (t : Text) : Except Fault Line :=
  let (head, tail) := t.breakAt '='
  match variableName head with
  | [] => .error .missingVariable
  | name => .ok (.assignment name (Text.trim tail))

/-- What a line says, or why it cannot be understood. -/
def read (l : Text) : Except Fault Line :=
  match LineKind.of l with
  | .skip => .ok .skip
  | .command => .ok (ofCommand (l.drop 1))
  | .target => ofHeading (dropComment l)
  | .variable => ofAssignment l
  | .invalid => .error (.unrecognised (l.head?.any isBlank))

end Line

end Buildfile.Description
