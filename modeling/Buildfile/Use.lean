import Buildfile.Rule
/-!
# Rulebooks in use

A rulebook stays in its place while rules are added to it and are looked up in it, in any order. Every look-up reads
the rulebook as it is then.
-/

namespace Buildfile.Rulebook

/-- What is done with a rulebook: a rule is added, or something is looked up. -/
inductive Use where
  | add (r : Rule)
  | get (n : Name)
  | contains (n : Name)
  | list
  | patterns
  | size
  /-- The pattern rule for a name is looked up. -/
  | find (n : Name)
  deriving DecidableEq, Repr, Inhabited

/-- What is learned from a use. -/
inductive Answer where
  | done
  | rule (r : Option Rule)
  | holds (truth : Bool)
  | rules (rs : List Rule)
  | number (k : Nat)
  deriving DecidableEq, Repr, Inhabited

/-- The rule that a use adds, if it does. -/
def Use.added? : Use → Option Rule
  | add r => some r
  | _ => none

/-- The answer to a use, and the rulebook afterwards. -/
def use (b : Rulebook) : Use → Answer × Rulebook
  | .add r => (.done, b.add r)
  | .get n => (.rule (b.get? n), b)
  | .contains n => (.holds (b.contains n), b)
  | .list => (.rules b.rules, b)
  | .patterns => (.rules b.patterns, b)
  | .size => (.number b.size, b)
  | .find n => (.rule (b.match? n), b)

/-- The answers to uses that are made one after the other, and the rulebook afterwards. -/
def useAll (b : Rulebook) : List Use → List Answer × Rulebook
  | [] => ([], b)
  | u :: us =>
    let (answer, b') := b.use u
    let (answers, last) := b'.useAll us
    (answer :: answers, last)

/-! ## A series of uses -/

section
variable (b : Rulebook)

/-- Only additions change the rulebook. -/
theorem use_snd (u : Use) : (b.use u).2 = b.addAll u.added?.toList := by
  cases u <;> rfl

theorem useAll_snd (us : List Use) : (b.useAll us).2 = b.addAll (us.filterMap Use.added?) := by
  induction us generalizing b with
  | nil => rfl
  | cons u us ih =>
    change ((b.use u).2.useAll us).2 = _
    rw [ih, use_snd, List.filterMap_cons]
    cases u.added? <;> rfl

/-- Each use is answered by the rulebook as the uses before it have left it. -/
theorem getElem?_useAll (us : List Use) (k : Nat) :
    (b.useAll us).1[k]? = us[k]?.map fun u => ((b.useAll (us.take k)).2.use u).1 := by
  induction us generalizing b k with
  | nil => rfl
  | cons u us ih =>
    cases k with
    | zero => rfl
    | succ k => exact ih (b.use u).2 k

end

end Buildfile.Rulebook
