import Buildfile.Description.Reader
import Mathlib.Tactic.MkIffOfInductiveProp
/-!
# The shape of a description

What a description looks like, whatever lines it was read from: the names of its rules and variables, how the
parts of a rule go together, and that every rule is found under its own name and no other.
-/

namespace Buildfile

/-- A name that can stand in the head of a rule. -/
@[mk_iff]
structure IsHeadName (x : Name) : Prop where
  word : Text.IsWord x
  colon : ':' ∉ x
  equals : '=' ∉ x
  comment : x.head? ≠ some '#'
  wildcards : x.count wildcard ≤ 1

instance (x : Name) : Decidable (IsHeadName x) := decidable_of_iff' _ (isHeadName_iff x)

/-- A name that a variable can have. -/
structure IsVariableName (x : Text) : Prop where
  named : x ≠ []
  trimmed : Text.Trimmed x
  colon : ':' ∉ x
  equals : '=' ∉ x

/-- A rule on line `n` has its commands on the lines `ns`, in this order and all of them below it. -/
structure Rule.StandsOn (r : Rule) (n : Int) (ns : List Int) : Prop where
  head : r.line = some n
  commands : r.commands.map (·.line) = ns.map some
  order : (n :: ns).Pairwise (· < ·)

/-- The parts of a rule go together. -/
structure Rule.WellFormed (r : Rule) : Prop where
  name : IsHeadName r.name
  pattern : r.pattern = true ↔ wildcard ∈ r.name
  parts : r.pattern = true → r.name = r.before ++ wildcard :: r.after ∧ wildcard ∉ r.before ∧ wildcard ∉ r.after
  whole : r.pattern = false → r.before = [] ∧ r.after = []
  dependencies : ∀ x ∈ r.dependencies, Text.IsWord x
  lines : ∃ n ns, r.StandsOn n ns

/-- All rules and variables of a description are well formed, and it has one rule for each name. -/
structure Description.WellFormed (d : Description) : Prop where
  names : d.rulebook.names.Nodup
  stored : ∀ x r, d.rulebook.get? x = some r ↔ r ∈ d.rulebook.rules ∧ r.name = x
  rules : ∀ r ∈ d.rulebook.rules, r.WellFormed
  bindings : ∀ x ∈ d.bindings.keys, IsVariableName x

end Buildfile
