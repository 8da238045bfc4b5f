import Buildfile.Table
import Buildfile.Text.Basic
/-!
# Variable references

A reference is `$(NAME)` or `${NAME}`, where the name is not empty and holds neither bracket of
its kind. References are replaced in one pass from left to right: an inserted value is not looked
at again, and a reference to a variable that is not set stays as written.
-/

namespace Buildfile.Description

/-- The values of the variables set so far. -/
abbrev Variables := Table Text Text

/-- The name at the start of a text that ends before `closing`, and the length of the reference
around it. -/
def enclosed? (opening closing : Char) (t : Text) : Option (Text × Nat) :=
  let name := t.takeWhile fun c => c != opening && c != closing
  match t.drop name.length with
  | [] => none
  | c :: _ => if c = closing ∧ name ≠ [] then some (name, name.length + 3) else none

/-- The name and the length of the reference at the start of a text. -/
def reference? : Text → Option (Text × Nat)
  | '$' :: '(' :: t => enclosed? '(' ')' t
  | '$' :: '{' :: t => enclosed? '{' '}' t
  | _ => none

/-- `expandAfter vs n t` leaves out the first `n` characters of `t` and replaces the references in
the others. -/
def expandAfter (vs : Variables) : Nat → Text → Text
  | _, [] => []
  | n + 1, _ :: t => expandAfter vs n t
  | 0, c :: t =>
    match reference? (c :: t) with
    | none => c :: expandAfter vs 0 t
    | some (name, length) => (vs.get? name).getD ((c :: t).take length) ++ expandAfter vs (length - 1) t

/-- The text with its references replaced. -/
def expand (vs : Variables) (t : Text) : Text := expandAfter vs 0 t

theorem expandAfter_eq_drop (vs : Variables) (n : Nat) (t : Text) : expandAfter vs n t = expand vs (t.drop n) := by
  induction n generalizing t with
  | zero => rfl
  | succ n ih => cases t with
    | nil => simp [expand, expandAfter]
    | cons c t => simp [expandAfter, ih]

theorem reference?_length_pos {t name : Text} {length : Nat} (h : reference? t = some (name, length)) : 0 < length := by
  have henclosed : ∀ {opening closing u}, enclosed? opening closing u = some (name, length) → 0 < length := by
    intro opening closing u hu
    unfold enclosed? at hu
    dsimp only at hu
    split at hu
    · cases hu
    · split at hu
      · cases hu
        omega
      · cases hu
  unfold reference? at h
  split at h
  · exact henclosed h
  · exact henclosed h
  · cases h

theorem expandAfter_empty (n : Nat) (t : Text) : expandAfter {} n t = t.drop n := by
  induction t generalizing n with
  | nil => cases n <;> rfl
  | cons c t ih =>
    cases n with
    | succ n => exact ih n
    | zero =>
      unfold expandAfter
      split
      · rw [ih]
        rfl
      · next name length href =>
        obtain ⟨n, rfl⟩ := Nat.exists_eq_add_of_lt (reference?_length_pos href)
        rw [Table.get?_empty, ih]
        simp

/-- Before any variable is set, every text stays as written. -/
theorem expand_empty (t : Text) : expand {} t = t := expandAfter_empty 0 t

end Buildfile.Description
