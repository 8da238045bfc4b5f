import Buildfile.Text.Basic
/-!
# Options of utilities

An argument that starts with a dash holds options: letters after one dash, of which the last may take the
rest of the argument or the next one as its value, or after two dashes a name, which may be cut short as
long as it is clear which one is meant. Two dashes alone end the options.
-/

namespace Buildfile.Utility

/-- Whether an option has a value. -/
inductive Takes where
  | nothing
  | value
  /-- The value stands in the same argument, or there is none. -/
  | optional
  deriving DecidableEq, Inhabited

/-- An option that a utility knows. -/
structure Known where
  letter : Option Char := none
  name : Text := []
  takes : Takes := .nothing
  deriving DecidableEq, Inhabited

/-- An option that was given. -/
structure Given where
  /-- The letter of the option, or its name if it has none. -/
  key : Text
  value : Option Text := none
  deriving DecidableEq, Inhabited

/-- Why options cannot be understood. -/
inductive OptionFault where
  | unknownLetter (c : Char)
  | letterNeedsValue (c : Char)
  | unknownName (argument : Text)
  | ambiguous (argument : Text) (names : List Text)
  | nameNeedsValue (name : Text)
  | nameTakesNone (name : Text)
  deriving DecidableEq, Inhabited

/-- The wording of a fault in options. -/
def OptionFault.message : OptionFault → Text
  | unknownLetter c => lit "invalid option -- '" ++ [c, '\'']
  | letterNeedsValue c => lit "option requires an argument -- '" ++ [c, '\'']
  | unknownName a => lit "unrecognized option '" ++ a ++ ['\'']
  | ambiguous a names =>
    lit "option '" ++ a ++ lit "' is ambiguous; possibilities:" ++ names.flatMap fun n => lit " '--" ++ n ++ ['\'']
  | nameNeedsValue n => lit "option '--" ++ n ++ lit "' requires an argument"
  | nameTakesNone n => lit "option '--" ++ n ++ lit "' doesn't allow an argument"

namespace Known

/-- What an option is known by. -/
def key (k : Known) : Text := (k.letter.map fun c => [c]).getD k.name

end Known

/-- An option without a value. -/
def flag (letter : Char) (name : Text := []) : Known := { letter := some letter, name }

/-- An option with a value. -/
def valued (letter : Char) (name : Text := []) : Known := { letter := some letter, name, takes := .value }

/-- An option that has a name only. -/
def named (name : Text) (takes : Takes := .nothing) : Known := { name, takes }

/-- The option of a name that may be cut short, given the whole argument. -/
def findName (known : List Known) (argument name : Text) : Except OptionFault Known :=
  match known.find? fun k => k.name = name ∧ name ≠ [] with
  | some k => .ok k
  | none =>
    match known.filter fun k => name.isPrefixOf k.name ∧ k.name ≠ [] with
    | [] => .error (.unknownName argument)
    | k :: ks =>
      if ks.all fun k' => k'.key = k.key ∧ k'.takes = k.takes then .ok k
      else .error (.ambiguous argument ((k :: ks).map (·.name)))

/-- The letters of an argument as options; the last one may still want a value. -/
def letters (known : List Known) : Text → Except OptionFault (List Given × Option Char)
  | [] => .ok ([], none)
  | c :: cs =>
    match known.find? fun k => k.letter = some c ∧ c ≠ ':' with
    | none => .error (.unknownLetter c)
    | some k =>
      match k.takes with
      | .nothing => (letters known cs).map fun r => ({ key := k.key } :: r.1, r.2)
      | .optional => .ok ([{ key := k.key, value := if cs = [] then none else some cs }], none)
      | .value => if cs = [] then .ok ([], some c) else .ok ([{ key := k.key, value := some cs }], none)

/-- The options among some arguments and the other arguments. With `mixed`, options may follow other
arguments. An option that is read before may still want its value, and has its complaint ready. -/
def parseAfter (known : List Known) (mixed : Bool) : (open? : Option (Text × OptionFault)) → List Text →
    Except OptionFault (List Given × List Text)
  | none, [] => .ok ([], [])
  | some (_, fault), [] => .error fault
  | some (key, _), a :: rest =>
    (parseAfter known mixed none rest).map fun r => ({ key, value := some a } :: r.1, r.2)
  | none, a :: rest =>
    match a with
    | ['-', '-'] => .ok ([], rest)
    | '-' :: '-' :: t =>
      let (name, value) := Text.breakAt '=' t
      match findName known a name with
      | .error e => .error e
      | .ok k =>
        if '=' ∈ t then
          if k.takes = .nothing then .error (.nameTakesNone k.name)
          else (parseAfter known mixed none rest).map fun r => ({ key := k.key, value := some value } :: r.1, r.2)
        else if k.takes = .value then parseAfter known mixed (some (k.key, .nameNeedsValue k.name)) rest
        else (parseAfter known mixed none rest).map fun r => ({ key := k.key } :: r.1, r.2)
    | '-' :: c :: cs =>
      match letters known (c :: cs) with
      | .error e => .error e
      | .ok (given, none) => (parseAfter known mixed none rest).map fun r => (given ++ r.1, r.2)
      | .ok (given, some letter) =>
        let key := (((known.find? (·.letter = some letter)).map Known.key).getD [letter])
        (parseAfter known mixed (some (key, .letterNeedsValue letter)) rest).map fun r => (given ++ r.1, r.2)
    | _ => if mixed then (parseAfter known mixed none rest).map fun r => (r.1, a :: r.2) else .ok ([], a :: rest)

/-- The options among some arguments and the other arguments. -/
def parse (known : List Known) (arguments : List Text) (mixed : Bool := true) :
    Except OptionFault (List Given × List Text) :=
  parseAfter known mixed none arguments

/-- Whether an option was given. -/
def has (given : List Given) (key : Text) : Bool := given.any (·.key = key)

/-- Whether the option of a letter was given. -/
def hasLetter (given : List Given) (c : Char) : Bool := has given [c]

/-- The last value that an option was given. -/
def value? (given : List Given) (key : Text) : Option Text :=
  ((given.filter (·.key = key)).getLast?).bind (·.value)

/-- The last one of some options that was given. -/
def lastOf? (given : List Given) (keys : List Text) : Option Given := (given.filter fun g => g.key ∈ keys).getLast?

end Buildfile.Utility
