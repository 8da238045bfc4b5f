import Buildfile.Description.Work
/-!
# Where rules come from

The rules of a build come from readers, but not always from one: descriptions are read one after the other and added
to one rulebook, and a rule can be taken over alone. What is known of a rule that a reader has made is known of every
rule in such a rulebook.
-/

namespace Buildfile

/-- Some reader has made the rule, whatever it was offered besides and has refused. -/
def Rule.Made (r : Rule) : Prop := ∃ os, r ∈ (Description.Reader.offerAll {} os).2.rulebook.rules

/-- The rulebook was put together from rules that readers have made. -/
inductive Rulebook.Made : Rulebook → Prop
  | empty : Made {}
  | add {b : Rulebook} {r : Rule} : Made b → r.Made → Made (b.add r)

end Buildfile
