import Buildfile.Text.Utf8
/-!
# Paths

A path is text in which slashes separate components. `Path.normalise` is the form in which a path
is shown: without empty components and without `.`, but with `..` kept, since it may lead out of a
link. The system refuses paths and components that are too long, in bytes.
-/

namespace Buildfile.Path

/-- The components of a path, empty ones included. -/
def components (p : Text) : List Text := Text.pieces (· == '/') p

/-- The components of a path that are not empty. -/
def names (p : Text) : List Text := (components p).filter (· ≠ [])

/-- Whether a path starts at the root. -/
def isAbsolute (p : Text) : Bool := p.head? = some '/'

/-- The slashes kept at the start of a path: exactly two of them stay two, any other number is one. -/
def leadingSlashes (p : Text) : Text :=
  match p.takeWhile (· == '/') with
  | [] => []
  | ['/', '/'] => ['/', '/']
  | _ => ['/']

/-- The form in which a path is shown. -/
def normalise (p : Text) : Text :=
  let kept := (components p).filter fun c => c ≠ [] ∧ c ≠ ['.']
  match leadingSlashes p ++ ['/'].intercalate kept with
  | [] => ['.']
  | q => q

/-- The last component of a path, as a utility shows it. -/
def base (p : Text) : Text :=
  match (names p).getLast? with
  | some c => c
  | none => if p = [] then [] else ['/']

/-- A path without the slashes at its end; the root keeps one. -/
def withoutSlashes (p : Text) : Text :=
  match (p.reverse.dropWhile (· == '/')).reverse with
  | [] => if p = [] then [] else ['/']
  | q => q

/-- A path without its last component. -/
def parent (p : Text) : Text :=
  match p.reverse.dropWhile (· == '/') with
  | [] => if isAbsolute p then ['/'] else ['.']
  | q =>
    match (q.dropWhile (· != '/')).dropWhile (· == '/') with
    | [] => if isAbsolute p then ['/'] else ['.']
    | r => r.reverse

/-- A name in a directory. -/
def join (directory name : Text) : Text :=
  if directory.getLast? = some '/' then directory ++ name else directory ++ '/' :: name

/-- The most bytes that a component may have. -/
def maxComponent : Nat := 255

/-- The most bytes that a path may have. -/
def maxLength : Nat := 4095

end Buildfile.Path
