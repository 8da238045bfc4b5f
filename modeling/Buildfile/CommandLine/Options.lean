import Buildfile.Text.Quoted
/-!
# Options on a command line

Arguments that start with a hyphen are options, and all others are operands; after `--` every
argument is an operand. A long option takes its value after an equals sign or from the next
argument. Short options can be written together, and one that takes a value takes the rest of its
argument or the next one.

`CommandLine.read` gives the options in the order in which they were written, and the operands.
-/

namespace Buildfile.CommandLine

/-- What an option is about. -/
inductive Topic where
  | description
  | jobs
  | directory
  | quoting
  | listing
  | debug
  | version
  | help
  deriving DecidableEq, Repr, Inhabited

/-- What writing an option does. -/
inductive Effect where
  /-- It takes a value. -/
  | value
  /-- It turns something on or off. -/
  | turn (on : Bool)
  deriving DecidableEq, Repr, Inhabited

/-- One way to write an option. -/
structure Spelling where
  name : Text
  topic : Topic
  effect : Effect
  deriving DecidableEq, Repr, Inhabited

/-- Every way to write an option. -/
def spellings : List Spelling :=
  [⟨lit "-f", .description, .value⟩, ⟨lit "--file", .description, .value⟩,
   ⟨lit "-j", .jobs, .value⟩, ⟨lit "--jobs", .jobs, .value⟩,
   ⟨lit "-C", .directory, .value⟩, ⟨lit "--directory", .directory, .value⟩,
   ⟨lit "--shell-quoting", .quoting, .turn true⟩, ⟨lit "--no-shell-quoting", .quoting, .turn false⟩,
   ⟨lit "--list", .listing, .turn true⟩, ⟨lit "--debug", .debug, .turn true⟩,
   ⟨lit "-v", .version, .turn true⟩, ⟨lit "--version", .version, .turn true⟩,
   ⟨lit "-h", .help, .turn true⟩, ⟨lit "--help", .help, .turn true⟩]

/-- The names of the options about a topic. -/
def Topic.names (t : Topic) : List Text := (spellings.filter (·.topic = t)).map (·.name)

/-- The option of a name. -/
def spelling? (name : Text) : Option Spelling := spellings.find? (·.name = name)

/-- Why a command line is not understood. -/
inductive UsageFault where
  | unknownOption (name : Text)
  | missingValue (name : Text)
  | unwantedValue (name : Text)
  /-- A value of one of the named options that does not fit it. -/
  | unfitValue (names : List Text) (problem : Text)
  | extraOperands (operands : List Text)
  deriving DecidableEq, Repr, Inhabited

/-- The wording of a fault. What may have been meant by an option of no such name is not guessed at. -/
def UsageFault.message : UsageFault → Text
  | unknownOption n => lit "No such option: " ++ n
  | missingValue n => lit "Option " ++ Text.quoted n ++ lit " requires an argument."
  | unwantedValue n => lit "Option " ++ Text.quoted n ++ lit " does not take a value."
  | unfitValue ns problem =>
    lit "Invalid value for " ++ (lit " / ").intercalate (ns.map fun n => '\'' :: n ++ ['\'']) ++ lit ": " ++ problem
  | extraOperands ts =>
    lit "Got unexpected extra argument" ++ (if ts.length = 1 then [] else ['s']) ++ lit " (" ++
      [' '].intercalate ts ++ [')']

/-- An option as it was written, with its value if it takes one. -/
inductive Occurrence where
  | value (topic : Topic) (t : Text)
  | turn (topic : Topic) (on : Bool)
  deriving DecidableEq, Repr, Inhabited

/-- What an option is about. -/
def Occurrence.topic : Occurrence → Topic
  | value t _ | turn t _ => t

/-- What one argument says: some options, and perhaps at its end one whose value is still to come. -/
structure Argument where
  complete : List Occurrence := []
  pending : Option Spelling := none
  deriving DecidableEq, Repr, Inhabited

/-- What a long option says, with the value that is attached to it. -/
def readLong (name : Text) (attached : Option Text) : Except UsageFault Argument :=
  match spelling? name with
  | none => .error (.unknownOption name)
  | some s =>
    match s.effect, attached with
    | .value, some v => .ok { complete := [.value s.topic v] }
    | .value, none => .ok { pending := some s }
    | .turn _, some _ => .error (.unwantedValue name)
    | .turn on, none => .ok { complete := [.turn s.topic on] }

/-- What short options say that are written together. -/
def readShort : Text → Except UsageFault Argument
  | [] => .ok {}
  | c :: t =>
    match spelling? ['-', c] with
    | none => .error (.unknownOption ['-', c])
    | some s =>
      match s.effect with
      | .value => .ok (if t = [] then { pending := some s } else { complete := [.value s.topic t] })
      | .turn on => (readShort t).map fun a => { a with complete := .turn s.topic on :: a.complete }

/-- What an argument says that is an option. -/
def readOption : Text → Except UsageFault Argument
  | '-' :: '-' :: t =>
    let (name, v) := Text.breakAt '=' ('-' :: '-' :: t)
    readLong name (if '=' ∈ t then some v else none)
  | t => readShort (t.drop 1)

/-- Whether an argument is an option. A single hyphen is an operand. -/
def isOption (t : Text) : Bool := t.head? = some '-' && 1 < t.length

/-- The options of a command line in order, and its operands. -/
def read : List Text → Except UsageFault (List Occurrence × List Text)
  | [] => .ok ([], [])
  | a :: rest =>
    if a = ['-', '-'] then .ok ([], rest)
    else if isOption a then
      match readOption a, rest with
      | .error f, _ => .error f
      | .ok ⟨complete, none⟩, rest => (read rest).map fun r => (complete ++ r.1, r.2)
      | .ok ⟨_, some s⟩, [] => .error (.missingValue s.name)
      | .ok ⟨complete, some s⟩, v :: rest =>
        (read rest).map fun r => (complete ++ .value s.topic v :: r.1, r.2)
    else (read rest).map fun r => (r.1, a :: r.2)

section
variable {a v : Text} {rest : List Text} {complete : List Occurrence}

theorem read_cons_operand (hend : a ≠ ['-', '-']) (hoption : isOption a = false) :
    read (a :: rest) = (read rest).map fun r => (r.1, a :: r.2) := by
  rw [read.eq_def]
  simp [hend, hoption]

variable (hend : a ≠ ['-', '-']) (hoption : isOption a = true)
include hend hoption

theorem read_cons_error {f : UsageFault} (ha : readOption a = .error f) : read (a :: rest) = .error f := by
  rw [read.eq_def]
  simp [hend, hoption, ha]

theorem read_cons_complete (ha : readOption a = .ok ⟨complete, none⟩) :
    read (a :: rest) = (read rest).map fun r => (complete ++ r.1, r.2) := by
  rw [read.eq_def]
  simp [hend, hoption, ha]

theorem read_cons_pending {s : Spelling} (ha : readOption a = .ok ⟨complete, some s⟩) :
    read (a :: v :: rest) = (read rest).map fun r => (complete ++ .value s.topic v :: r.1, r.2) := by
  rw [read.eq_def]
  simp [hend, hoption, ha]

end

end Buildfile.CommandLine
