import Buildfile.Description.Expansion
import Mathlib.Order.Bounds.Basic
/-!
# The parts of a text

Where the references of a text stand, told from its positions and without any variables: from its start on, a text is
cut into references and single characters. What is put in the place of a reference has no say in where the next part
starts.
-/

namespace Buildfile.Description

/-- The brackets that a name can have around it. -/
inductive Bracket where
  | round
  | curly
  deriving DecidableEq, Repr, Inhabited

namespace Bracket

def opening : Bracket → Char
  | round => '('
  | curly => '{'

def closing : Bracket → Char
  | round => ')'
  | curly => '}'

end Bracket

/-- A reference starts at position `i` of a text and ends with its closing bracket at position `j`: that is the first
bracket of its kind behind the opening one, and does not follow it at once. -/
structure ReferenceAt (t : Text) (b : Bracket) (i j : Nat) : Prop where
  dollar : t[i]? = some '$'
  opening : t[i + 1]? = some b.opening
  first : IsLeast {k | i + 2 ≤ k ∧ (t[k]? = some b.opening ∨ t[k]? = some b.closing)} j
  closing : t[j]? = some b.closing
  named : i + 2 < j

/-- A part of a text: a character that stands for itself, or a reference. -/
inductive Part where
  | character (c : Char)
  | reference (b : Bracket) (name : Text)
  deriving DecidableEq, Repr, Inhabited

namespace Part

/-- The part as it stands in the text. -/
def written : Part → Text
  | character c => [c]
  | reference b name => '$' :: b.opening :: name ++ [b.closing]

/-- What the part becomes: a reference to a variable that is set becomes its value, and all else stays as written. -/
def filled (vs : Variables) : Part → Text
  | character c => [c]
  | reference b name => (vs.get? name).getD (reference b name).written

/-- The name in a reference. -/
def name? : Part → Option Text
  | character _ => none
  | reference _ name => some name

end Part

/-- From position `i` on, a text consists of these parts: a reference reaches to its closing bracket, and where none
starts there is a single character. -/
inductive PartsFrom (t : Text) : Nat → List Part → Prop
  | stop : PartsFrom t t.length []
  | reference {b : Bracket} {i j : Nat} {ps : List Part} : ReferenceAt t b i j → PartsFrom t (j + 1) ps →
      PartsFrom t i (.reference b ((t.take j).drop (i + 2)) :: ps)
  | character {c : Char} {i : Nat} {ps : List Part} : t[i]? = some c → (∀ b j, ¬ ReferenceAt t b i j) →
      PartsFrom t (i + 1) ps → PartsFrom t i (.character c :: ps)

end Buildfile.Description
