import Buildfile.Workspace.Pattern
import Buildfile.Workspace.Tree
/-!
# Fields

What a word expands to is a sequence of runs of text, some of which are cut at separators. The parts between
the cuts are fields. A field that is a pattern stands for the paths that it matches.
-/

namespace Buildfile.Shell

/-- Where a run of text is cut. -/
inductive Cut where
  | nowhere
  /-- At separators, and at zero bytes, which stand between parameters. -/
  | separators
  /-- At zero bytes alone. -/
  | ends
  deriving DecidableEq, Inhabited

/-- A run of text. -/
structure Run where
  text : Marked := []
  cut : Cut := .nowhere
  /-- Whether there is a field even if there is no text. -/
  marked : Bool := false
  deriving Inhabited

namespace Run

/-- A quotation mark, which makes a field even of nothing. -/
def mark : Run := { marked := true }

end Run

/-- A blank that separates fields without making any. -/
def isBlankSeparator (c : Char) : Bool := c == ' ' || c == '\t' || c == '\n' || c == '\x00'

/-- The fields so far and the one that is not complete yet, all in reverse. -/
structure Fields where
  complete : List Marked := []
  last : Marked := []
  /-- Whether there is anything of the last field. -/
  started : Bool := false
  /-- Whether blanks are left out since a field has just ended. -/
  skipping : Bool := false
  /-- Whether the last run was cut at zero bytes alone. -/
  ends : Bool := false
  /-- The most fields that may still be ended. -/
  most : Option Nat := none
  /-- How much of the last field there is without the separators at its end. -/
  kept : Option Nat := none
  deriving Inhabited

namespace Fields

/-- The fields with one more character at the end of the last one. -/
def extend (f : Fields) (c : Char × Bool) : Fields := { f with last := c :: f.last, started := true }

/-- The fields with the last one complete. -/
def close (f : Fields) : Fields := { f with complete := f.last :: f.complete, last := [], started := false }

/-- The fields with one more character of a run that is cut where `separates` holds; `plain` tells whether
blanks are left out in it. -/
def cutAt (separates : Char → Bool) (plain : Bool) (f : Fields) (c : Char × Bool) : Fields :=
  let isEnd := separates c.1
  let isBlank := isEnd && isBlankSeparator c.1
  if f.most = some 0 then
    if isBlank then { f with kept := some (f.kept.getD f.last.length) }.extend c
    else { f with kept := if isEnd ∧ f.skipping then f.kept else none, skipping := false }.extend c
  else if f.skipping ∧ isBlank then f
  else if f.skipping ∧ isEnd then { f with skipping := false }
  else if isEnd then
    let blank := if plain then isBlank else f.skipping
    if !f.started ∧ blank then { f with skipping := false }
    else match f.most with
      | some 1 => { f with skipping := blank, most := some 0, kept := some f.last.length }.extend c
      | most => { f with skipping := blank, most := most.map (· - 1) }.close
  else { f with skipping := false }.extend c

/-- The fields with one more run. -/
def add (separators : Text) (f : Fields) (r : Run) : Fields :=
  match r.cut with
  | .nowhere => { r.text.foldl extend f with started := f.started || r.marked || !r.text.isEmpty }
  | .separators =>
    r.text.foldl (cutAt (fun c => separators.contains c || c == '\x00') (!f.ends)) { f with skipping := false, ends := false }
  | .ends => r.text.foldl (cutAt (· == '\x00') false) { f with skipping := false, ends := true }

/-- All fields. -/
def all (f : Fields) : List Marked :=
  let last := match f.kept with
    | some n => f.last.drop (f.last.length - n)
    | none => f.last
  let started : Bool := f.started && !(f.kept = some 0)
  (if f.ends ∨ started then last :: f.complete else f.complete).reverse.map List.reverse

end Fields

/-- The fields that runs are cut into, at most so many; the last of them keeps what is left. -/
def fieldsOf (separators : Text) (runs : List Run) (most : Option Nat := none) : List Marked :=
  (runs.foldl (Fields.add separators) { most }).all

/-- The text of runs that are not cut. -/
def joined (runs : List Run) : Marked := runs.flatMap (·.text)

/-! ## Paths -/

/-- Marked text in which an unquoted backslash quotes the character after it. -/
def withEscapes : Marked → Marked
  | ('\\', false) :: (c, _) :: m => (c, true) :: withEscapes m
  | c :: m => c :: withEscapes m
  | [] => []

/-- Whether a bracket is closed in the same component, where the text after it is given. -/
def closesBracket : Marked → Bool
  | [] => false
  | (c, _) :: m =>
    if c = '/' then false
    else match m with
      | (']', false) :: _ => true
      | _ => closesBracket m

/-- Whether a component stands for other ones. -/
def isGlob : Marked → Bool
  | [] => false
  | (_, true) :: m => isGlob m
  | ('*', false) :: _ | ('?', false) :: _ => true
  | ('[', false) :: m => closesBracket (if m.head? = some ('!', false) then m.drop 1 else m) || isGlob m
  | _ :: m => isGlob m

/-- The components of a marked path. -/
def markedComponents (m : Marked) : List Marked :=
  m.foldr (fun c cs =>
    if c.1 = '/' then [] :: cs
    else match cs with
      | [] => [[c]]
      | d :: ds => (c :: d) :: ds) [[]]

/-- The paths that the components of a pattern match, after `path`. -/
def matchingPaths (t : Tree) (here : Place) : (path : Text) → List Marked → List Text
  | path, [] => [path]
  | path, m :: ms =>
    let isLast := ms.isEmpty
    let after (name : Text) : Text := path ++ name ++ if isLast then [] else ['/']
    if isGlob m then
      match t.directoryOf here (if path = [] then ['.'] else path) with
      | .error _ => []
      | .ok p =>
        let names := ['.'] :: ['.', '.'] :: t.children p
        let hidden : Bool := m.head?.any (·.1 = '.')
        let fitting := names.filter fun n => (n.head? ≠ some '.' || hidden) && Pattern.covers (Pattern.ofMarked m) n
        fitting.flatMap fun n => matchingPaths t here (after n) ms
    else matchingPaths t here (after m.text) ms

/-- The arguments that a field stands for: the paths that it matches, or else itself. -/
def argumentsOf (t : Tree) (here : Place) (m : Marked) : List Text :=
  let components := markedComponents (withEscapes m)
  if components.any isGlob then
    match (matchingPaths t here [] components).filter fun p => (t.lookup here p false).isOk with
    | [] => [m.text]
    | ps => Text.sorted ps
  else [m.text]

end Buildfile.Shell
