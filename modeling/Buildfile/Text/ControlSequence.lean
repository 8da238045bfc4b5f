import Buildfile.Text.Basic
/-!
# Control sequences

A control sequence tells a terminal how to show the text after it: an escape character and an opening
bracket, parameters, and the letter of the command. What is not shown on a terminal is written without
them.
-/

namespace Buildfile.Text

/-- A character of the parameters of a control sequence. -/
def isControlParameter (c : Char) : Bool := c.isDigit || c == ';' || c == '?'

/-- The length of the control sequence at the start of a text; zero if there is none. -/
def controlLength : Text → Nat
  | '\x1b' :: '[' :: t =>
    if (t.dropWhile isControlParameter).head?.any Char.isAlpha then (t.takeWhile isControlParameter).length + 3 else 0
  | _ => 0

/-- A text without its first `skip` characters and without the control sequences after them. -/
def withoutControlsFrom : (skip : Nat) → Text → Text
  | _, [] => []
  | n + 1, _ :: t => withoutControlsFrom n t
  | 0, c :: t =>
    match controlLength (c :: t) with
    | 0 => c :: withoutControlsFrom 0 t
    | n + 1 => withoutControlsFrom n t

/-- A text without its control sequences. -/
def withoutControls (t : Text) : Text := withoutControlsFrom 0 t

end Buildfile.Text
