import Buildfile.Failure
import Buildfile.Text.Utf8
/-!
# The console

Everything the program shows is a list of writes, each of which knows its stream and where it came
from. A console turns messages into writes; debug lines and stack traces are written only when
debugging is on.

`standardOutput` and `standardError` give what the two streams hold after a list of writes.
-/

namespace Buildfile

/-- One piece of output. -/
inductive Write where
  /-- A line on standard output. -/
  | out (line : Text)
  /-- A line on standard error. -/
  | err (line : Text)
  /-- A debug line, on standard error. -/
  | debug (line : Text)
  /-- A stack trace, on standard error, with the name and the message of what was raised. -/
  | trace (name message : Text)
  /-- What a command wrote to its standard output. -/
  | commandOut (content : Bytes)
  /-- What a command wrote to its standard error. -/
  | commandErr (content : Bytes)
  deriving DecidableEq, Repr, Inhabited

namespace Write

/-- The bytes of a line with its end. -/
def line (t : Text) : Bytes := Utf8.encode (t ++ ['\n'])

/-- The last line of a stack trace: the name of what was raised, and its message if it has one. -/
def traceLine (name message : Text) : Text := if message = [] then name else name ++ lit ": " ++ message

/-- A debug message as it is shown. -/
def debugLine (message : Text) : Text := lit "[DEBUG] " ++ message

/-- What a write adds to standard output. -/
def toOut : Write → Bytes
  | out t => line t
  | commandOut b => b
  | _ => []

/-- What a write adds to standard error. -/
def toErr : Write → Bytes
  | err t => line t
  | debug t => line (debugLine t)
  | trace name message => line (traceLine name message)
  | commandErr b => b
  | _ => []

/-- Whether a write is debug output: a debug line or a stack trace. -/
def isDebug : Write → Bool
  | debug _ | trace _ _ => true
  | _ => false

end Write

/-- What standard output holds after some writes. -/
def standardOutput (ws : List Write) : Bytes := ws.flatMap Write.toOut

/-- What standard error holds after some writes. -/
def standardError (ws : List Write) : Bytes := ws.flatMap Write.toErr

/-- The name of the kind of an error. -/
def BuildError.kind : BuildError → Text
  | general _ => lit "SmmakeError"
  | unreadable _ _ => lit "DescriptionFileError"
  | malformed _ _ _ => lit "ParseError"
  | unknownTarget _ => lit "TargetNotFound"
  | circular _ _ => lit "CircularDependency"
  | commandFailed _ _ _ _ => lit "CommandFailed"
  | dependencyFailed _ _ _ => lit "DependencyFailed"

/-- Where messages go. -/
structure Console where
  /-- Whether debug lines and stack traces are written. -/
  debugging : Bool := false
  deriving DecidableEq, Repr, Inhabited

namespace Console

/-- A command before it runs. -/
def command (_ : Console) (text : Text) : List Write := [.out text]

/-- A line of information. -/
def info (_ : Console) (message : Text) : List Write := [.out message]

/-- Names, one on each line. -/
def names (_ : Console) (ns : List Text) : List Write := ns.map .out

/-- An error: its heading, its message, indented details, and a suggestion after an empty line. -/
def error (_ : Console) (title message : Text) (details : List Text) (suggestion : Text) : List Write :=
  [.err (lit "ERROR: " ++ title), .err message] ++ details.map (fun d => .err (lit "  " ++ d)) ++
    if suggestion = [] then [] else [.err ('\n' :: suggestion)]

/-- A debug line, if debugging is on. -/
def debug (c : Console) (message : Text) : List Write := if c.debugging then [.debug message] else []

/-- An error as it was raised: its stack trace if debugging is on, else its message. -/
def exception (c : Console) (e : BuildError) : List Write :=
  if c.debugging then [.trace (lit "smmake.errors." ++ e.kind) e.message]
  else [.err (lit "Error: " ++ e.message)]

end Console

/-- The console that the program shares, if one has been chosen. -/
structure SharedConsole where
  current : Option Console := none
  deriving DecidableEq, Repr, Inhabited

namespace SharedConsole

/-- The shared console; the first use without a choice makes one that does not debug. -/
def get (s : SharedConsole) : Console × SharedConsole :=
  let c := s.current.getD {}
  (c, ⟨some c⟩)

/-- The chosen console becomes the shared one. -/
def choose (_ : SharedConsole) (c : Console) : SharedConsole := ⟨some c⟩

end SharedConsole

end Buildfile
