import Buildfile.Workspace.Utility.Basic
/-!
# Choices

Some options have one of a few words as their value. A word may be cut short as long as it is clear which
choice is meant, and some choices have several words.
-/

namespace Buildfile.Utility

/-- The choices that a word may stand for: the one with exactly this word, or all that have one starting so. -/
def matchChoice (choices : List (List Text)) (w : Text) : List Nat :=
  match choices.findIdx? fun ws => w ∈ ws with
  | some i => [i]
  | none => (List.range choices.length).filter fun i => (choices[i]?).any fun ws => ws.any w.isPrefixOf

/-- The number of the choice that a word stands for; the utility ends with a complaint if there is none. -/
def choose (name option : Text) (choices : List (List Text)) (w : Text) (status : Int := 1) : Program Nat := do
  match matchChoice choices w with
  | [i] => return i
  | found =>
    let q ← quoted option
    complainWith name (if found = [] then lit "invalid argument " else lit "ambiguous argument ") w (lit " for " ++ q)
    tell (lit "Valid arguments are:")
    for ws in choices do
      tell (lit "  - " ++ (lit ", ").intercalate (← ws.mapM quoted))
    hint name
    Program.exit status

end Buildfile.Utility
