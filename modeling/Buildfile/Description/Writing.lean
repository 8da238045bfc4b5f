import Buildfile.Description.Shape
/-!
# Writing a description

A description is written as a list of clauses. A clause takes one line for its names and dependencies, and below
it one line for each command, behind a tab and with an `@` if the command is silent. What is written must not look
like anything else: a name not like a comment or an assignment, a dependency not like a comment, and a command not
like a comment, a silent one or several lines.
-/

namespace Buildfile.Description

/-- A command that is to be written. -/
structure Instruction where
  text : Text
  silent : Bool := false
  deriving DecidableEq, Repr, Inhabited

namespace Instruction

/-- An instruction that can be written down. -/
@[mk_iff]
structure Writable (i : Instruction) : Prop where
  trimmed : i.text.Trimmed
  unbroken : i.text.Unbroken
  shown : i.silent = false → i.text ≠ [] ∧ i.text.head? ≠ some '@' ∧ i.text.head? ≠ some '#'

instance (i : Instruction) : Decidable i.Writable := decidable_of_iff' _ (writable_iff i)

/-- What is written behind the tab. -/
def body (i : Instruction) : Text := if i.silent then '@' :: i.text else i.text

def line (i : Instruction) : Text := '\t' :: i.body

/-- The commands of instructions on the lines from `n` on. -/
def commands (n : Int) : List Instruction → List Command
  | [] => []
  | i :: is => { text := i.text, silent := i.silent, line := some n } :: commands (n + 1) is

end Instruction

/-- Names with their dependencies and commands in common. -/
structure Clause where
  names : List Name
  dependencies : List Name := []
  instructions : List Instruction := []
  deriving DecidableEq, Repr, Inhabited

namespace Clause

/-- A clause that can be written down. -/
@[mk_iff]
structure Writable (c : Clause) : Prop where
  named : c.names ≠ []
  names : ∀ x ∈ c.names, IsHeadName x
  dependencies : ∀ x ∈ c.dependencies, Text.IsWord x ∧ x.head? ≠ some '#'
  instructions : ∀ i ∈ c.instructions, i.Writable

instance (c : Clause) : Decidable c.Writable := decidable_of_iff' _ (writable_iff c)

def heading (c : Clause) : Text := [' '].intercalate c.names ++ ':' :: ' ' :: [' '].intercalate c.dependencies

def lines (c : Clause) : List Text := c.heading :: c.instructions.map Instruction.line

/-- What a clause on line `n` stands for. -/
def draft (c : Clause) (n : Int) : Draft where
  names := c.names
  dependencies := c.dependencies
  line := n
  commands := Instruction.commands (n + 1) c.instructions

end Clause

/-- The lines of clauses, written one below the other. -/
def written (cs : List Clause) : List Text := cs.flatMap Clause.lines

/-- The rules that clauses stand for, the first of which is on line `n`. -/
def rulesFrom (n : Int) : List Clause → List Rule
  | [] => []
  | c :: cs => (c.draft n).rules ++ rulesFrom (n + c.lines.length) cs

end Buildfile.Description
