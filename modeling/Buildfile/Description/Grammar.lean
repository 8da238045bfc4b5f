import Buildfile.Description.Reader
/-!
# The grammar of a description

Which lines a description may not have, told from their characters and from the heads of rules above them,
without a reader. A line is blamed for one fault at most, and so is a description: for that of its first
line that has one.
-/

namespace Buildfile.Description

/-! ## Kinds of lines -/

/-- A line that says nothing: only blanks, or blanks in front of a `#`. -/
def Passed (l : Text) : Prop :=
  ∃ u v, l = u ++ v ∧ Text.Blanks u ∧ (v = [] ∨ v.head? = some '#')

/-- The head of a rule: of its colons and equals signs the first is a colon, with no equals sign behind it. -/
def IsHead (l : Text) : Prop :=
  ¬ Passed l ∧ l.head? ≠ some '\t' ∧
    ∃ u v, l = u ++ ':' :: v ∧ ':' ∉ u ∧ '=' ∉ u ∧ v.head? ≠ some '='

/-- What a line of each kind looks like. -/
inductive HasKind (l : Text) : LineKind → Prop
  | skip (passed : Passed l) : HasKind l .skip
  | command (said : ¬ Passed l) (tab : l.head? = some '\t') : HasKind l .command
  | target (head : IsHead l) : HasKind l .target
  | variable (said : ¬ Passed l) (untabbed : l.head? ≠ some '\t') (head : ¬ IsHead l) (equals : '=' ∈ l) :
      HasKind l .variable
  | invalid (said : ¬ Passed l) (untabbed : l.head? ≠ some '\t') (colon : ':' ∉ l) (equals : '=' ∉ l) :
      HasKind l .invalid

/-! ## Comments -/

/-- A word may start after this text: it is empty or ends in a blank. -/
def Fresh (u : Text) : Prop := ∀ c, u.getLast? = some c → isBlank c = true

/-- `u` is the line `l` without its comment, which starts at the first `#` where a word may start. -/
def Uncommented (l u : Text) : Prop :=
  (∀ s t, u = s ++ '#' :: t → ¬ Fresh s) ∧ (l = u ∨ Fresh u ∧ ∃ v, l = u ++ '#' :: v)

/-! ## Faults -/

/-- A line with this fault below the lines `above`. -/
inductive Flaw (above : List Text) (l : Text) : Fault → Prop
  | orphan (kind : HasKind l .command) (first : ∀ a ∈ above, ¬ IsHead a) : Flaw above l .orphanCommand
  | unrecognised (kind : HasKind l .invalid) : Flaw above l (.unrecognised (l.head?.any isBlank))
  | nameless {u : Text} (kind : HasKind l .target) (comment : Uncommented l u)
      (names : Text.Blanks (u.breakAt ':').1) : Flaw above l .missingTarget
  | wildcards {u : Text} {ws ws' : List Name} {w : Name} (kind : HasKind l .target) (comment : Uncommented l u)
      (names : Text.words (u.breakAt ':').1 = ws ++ w :: ws') (fine : ∀ x ∈ ws, x.count wildcard ≤ 1)
      (many : 2 ≤ w.count wildcard) : Flaw above l (.manyWildcards w)
  | unnamed {u v : Text} (kind : HasKind l .variable) (split : l = u ++ '=' :: v) (equals : '=' ∉ u)
      (name : Text.Blanks u ∨ ∃ a b, u = a ++ ':' :: b ∧ Text.Blanks a ∧ Text.Blanks b) :
      Flaw above l .missingVariable

/-- Line `i` has this fault; lines are counted from zero. -/
def FaultAt (ls : List Text) (i : Nat) (f : Fault) : Prop := ∃ l, ls[i]? = some l ∧ Flaw (ls.take i) l f

end Buildfile.Description
