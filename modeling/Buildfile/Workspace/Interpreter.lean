import Buildfile.Text.Basic
/-!
# Interpreters

A script that is executed as a program names its interpreter on its first line, after `#!`. What
follows the name, up to the blanks at the end of the line, is one argument. Only the start of a file is
looked at, so a long line may be cut, and a zero byte ends it.
-/

namespace Buildfile

/-- The program that runs a script. -/
structure Interpreter where
  /-- The path of the program. It is not looked for anywhere else. -/
  path : Text
  /-- The argument that the program is given before the script. -/
  argument : Option Text := none
  deriving DecidableEq, Repr, Inhabited

namespace Interpreter

/-- The number of bytes of a file that are looked at. -/
def headSize : Nat := 256

/-- A byte that ends the name of an interpreter. -/
def isSpace (c : Char) : Bool := c == ' ' || c == '\t'

/-- Text without the spaces at their end. -/
def trimEnd (t : Text) : Text := (t.reverse.dropWhile isSpace).reverse

/-- The line that names the interpreter, where `t` is what follows `#!` in the start of a file. A line
that is not complete must hold all of the name. -/
def line? (t : Text) : Option Text :=
  let shown := t.takeWhile (· != '\x00')
  if shown.contains '\n' then
    let line := trimEnd (shown.takeWhile (· != '\n'))
    if line.all isSpace then none else some line
  else if shown.length < headSize - 2 then some shown
  else if (shown.dropWhile isSpace).any isSpace then some (trimEnd (shown.take (headSize - 3)))
  else none

/-- The interpreter that a script names. An empty name stands for the present directory. -/
def ofScript? (content : Text) : Option Interpreter :=
  match content.take headSize with
  | '#' :: '!' :: t =>
    (line? t).map fun line =>
      let line := line.dropWhile isSpace
      let name := line.takeWhile (!isSpace ·)
      let rest := line.drop name.length
      { path := if name = [] then ['.'] else name
        argument := if rest = [] then none else some (rest.dropWhile isSpace) }
  | _ => none

end Interpreter

end Buildfile
