import Buildfile.Rule
import Buildfile.Text.Quoted
/-!
# Summaries

A summary lists every rule of a rulebook in order, with its dependencies in quoted form and its
commands as they will run.
-/

namespace Buildfile

/-- The lines that describe one command. -/
def Command.summary (c : Command) : Text := lit "    " ++ (if c.silent then lit "(silent) " else []) ++ c.text

/-- The name of a rule, marked if the rule is a pattern. -/
def Rule.label (r : Rule) : Text := r.name ++ if r.pattern then lit " (pattern)" else []

/-- The lines that describe one rule. -/
def Rule.summary (r : Rule) : List Text :=
  [lit "Parsed target: " ++ r.label, lit "  Dependencies: " ++ Text.quotedList r.dependencies,
    lit "  Commands:"] ++ r.commands.map Command.summary

/-- The lines that describe a rulebook. -/
def Rulebook.summary (b : Rulebook) : List Text := b.rules.flatMap Rule.summary

end Buildfile
