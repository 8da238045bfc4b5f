import Buildfile.CommandLine.Options
import Buildfile.Console
import Buildfile.Text.ControlSequence
import Buildfile.Text.Paragraph
/-!
# Usage

What the program says about itself: its version, its help, and how it words a command line that it
does not understand. In the help, options stand in a column of their own, and what they do is laid out
in the lines beside them. None of it holds a control sequence, whatever text of others it shows.
-/

namespace Buildfile.CommandLine

/-- The name of the program. -/
def program : Text := lit "smmake"

/-- The line that shows how the program is called. -/
def usageLine : Text := lit "Usage: " ++ program ++ lit " [OPTIONS] [TARGET]"

/-- The version of the program. -/
def versionLine : Text := program ++ lit " version 0.1.0"

/-- The lines that report a fault. A fault in the writing of an option is reported without the
reminder of the usage. -/
def UsageFault.report (f : UsageFault) : List Write :=
  let reminder := [usageLine, lit "Try '" ++ program ++ lit " -h' for help.", []]
  let said := [lit "Error: " ++ f.message]
  (match f with
    | missingValue _ | unwantedValue _ => said
    | _ => reminder ++ said).map fun l => .err (Text.withoutControls l)

/-! ## Help -/

/-- The width of a page. -/
def pageWidth : Nat := 78

/-- The widest option that shares a line with what it does. -/
def maxOptionWidth : Nat := 30

/-- The column at which it is said what an option does. -/
def descriptionColumn : Nat := maxOptionWidth + 4

/-- The lines about one option. -/
def optionLines (option description : Text) : List Text :=
  let ls := Text.layOut (pageWidth - descriptionColumn) description
  let head := Text.indented 2 option
  match ls with
  | [] => [head]
  | l :: rest =>
    (if option.length ≤ maxOptionWidth then [head ++ Text.indented (descriptionColumn - head.length) l]
      else [head, Text.indented descriptionColumn l]) ++ rest.map (Text.indented descriptionColumn)

/-- What a help says about a default. -/
def defaultMark (value : Text) : Text :=
  lit "  [default: " ++ (if value = [] then ['"', '"'] else value) ++ [']']

/-- The options with what they do; `description` is the default of the description that is read. -/
def optionTable (description : Text) : List (Text × Text) :=
  [(lit "-f, --file TEXT", lit "Build description to read (env: SMMAKE_FILE)" ++ defaultMark description),
   (lit "-j, --jobs INTEGER RANGE",
     lit "Max targets running commands at once (default: unbounded, env: SMMAKE_JOBS)  [x>=1]"),
   (lit "-C, --directory DIRECTORY", lit "Change to this directory before doing anything"),
   (lit "--shell-quoting / --no-shell-quoting",
     lit "Split commands with shell-style quotes instead of plain whitespace" ++ defaultMark (lit "no-shell-quoting")),
   (lit "--list", lit "List targets and exit"),
   (lit "--debug", lit "Show parsing/scheduling details and stack traces (env: SMMAKE_DEBUG)"),
   (lit "-v, --version", lit "Show the version and exit."),
   (lit "-h, --help", lit "Show this message and exit.")]

/-- What the help says before the options. -/
def preamble : List Text :=
  [usageLine, [],
   lit "  smmake - Simple Multi-platform Make.", [],
   lit "  Runs TARGET (default: all) from the build description, dependencies first",
   lit "  and in parallel.", [],
   lit "  Examples:",
   lit "    smmake                       # Run the default target",
   lit "    smmake test                  # Run the 'test' target",
   lit "    smmake -f custom.mk build    # Use 'custom.mk' and run 'build'", []]

/-- The lines of the help. -/
def helpLines (description : Text) : List Text :=
  (preamble ++ lit "Options:" :: (optionTable description).flatMap fun o => optionLines o.1 o.2).map
    Text.withoutControls

end Buildfile.CommandLine
