import Buildfile.Description.Reader
/-!
# The outline of a description

What a description says, told without a reader that goes through it: which names stand in the head of a
line, which commands belong to it, and which variables are set above a line. Lines are counted from zero
here; the numbers that rules and commands carry count from one.
-/

namespace Buildfile.Description

/-- The names before the colon of the head of a rule. -/
def headWords (l : Text) : List Name := Text.words ((dropComment l).breakAt ':').1

/-- The names after the colon of the head of a rule. -/
def tailWords (l : Text) : List Name := Text.words ((dropComment l).breakAt ':').2

/-- The name and the value of an assignment, as written. -/
def assignment? (l : Text) : Option (Text × Text) :=
  if LineKind.of l = .variable then
    some (Line.variableName (l.breakAt '=').1, Text.trim (l.breakAt '=').2)
  else none

/-- The variables after one more line. -/
def assign (vs : Variables) (l : Text) : Variables :=
  match assignment? l with
  | some (x, value) => vs.set x (expand vs value)
  | none => vs

/-- The variables that these lines set, one after the other. -/
def variablesOf (ls : List Text) : Variables := ls.foldl assign {}

/-- Whether the command on a line is silent. -/
def isSilent (l : Text) : Bool := l.trim.head? = some '@'

/-- The command on a line, as written. -/
def commandText (l : Text) : Text := if isSilent l then Text.trim (l.trim.drop 1) else l.trim

/-- The command on line `j`, which sees the variables that are set above it. -/
def commandAt? (ls : List Text) (j : Nat) : Option Command :=
  (ls[j]?.filter fun l => LineKind.of l = .command).map fun l =>
    { text := expand (variablesOf (ls.take j)) (commandText l), silent := isSilent l, line := some (j + 1) }

/-- The commands from line `k` on, up to the next head of a rule. -/
def commandsFrom (ls : List Text) (k : Nat) : List Command :=
  (List.range' k ((ls.drop k).takeWhile fun l => LineKind.of l ≠ .target).length).filterMap (commandAt? ls)

/-- Name `x` stands at place `p` in the head of line `i`. -/
def HeadAt (ls : List Text) (x : Name) (i p : Nat) : Prop :=
  ∃ l, ls[i]? = some l ∧ LineKind.of l = .target ∧ (headWords l)[p]? = some x

/-- Line `i` is the last that has `x` in its head, and `p` the last place where it stands there. -/
def LastHeadAt (ls : List Text) (x : Name) (i p : Nat) : Prop :=
  HeadAt ls x i p ∧ ∀ j q, HeadAt ls x j q → j < i ∨ j = i ∧ q ≤ p

/-- Line `i` assigns this value to `x`. -/
def AssignedAt (ls : List Text) (x : Text) (i : Nat) (value : Text) : Prop :=
  ∃ l, ls[i]? = some l ∧ assignment? l = some (x, value)

/-- Line `i` is the last that assigns to `x`. -/
def LastAssignedAt (ls : List Text) (x : Text) (i : Nat) (value : Text) : Prop :=
  AssignedAt ls x i value ∧ ∀ j w, AssignedAt ls x j w → j ≤ i

/-- Line `i` is the first that assigns to `x`. -/
def FirstAssignedAt (ls : List Text) (x : Text) (i : Nat) : Prop :=
  (∃ value, AssignedAt ls x i value) ∧ ∀ j w, AssignedAt ls x j w → i ≤ j

/-- The rule that the head of line `i` makes for its name `x`. -/
def ruleAt (ls : List Text) (i : Nat) (x : Name) : Rule :=
  Rule.ofName x ((ls[i]?.map tailWords).getD []) (commandsFrom ls (i + 1)) (i + 1)

end Buildfile.Description
