/-!
# Text

Text is a list of characters, so that every rule about it is an equation on lists. This module
holds the cuts that the rest of the library makes: at the first occurrence of a character, at
every occurrence of a class of characters, and between two positions.

`breakAt_append` says that a cut at a character loses that character alone, and
`substitute_eq_intercalate` that to put a text in for a character is to cut at the character and to join
the pieces with the text.
-/

namespace Buildfile

/-- A list of characters. -/
abbrev Text := List Char

/-- The text of a string literal. It is irreducible so that a definition that mentions a literal
unfolds without spelling it out. -/
@[irreducible] def lit (s : String) : Text := s.toList

/-- Texts are compared by their characters. -/
instance : LawfulBEq Text := inferInstance

namespace Text

/-! ## Order -/

/-- Whether `s` comes before `t` or is `t`, where texts are ordered by their code points. -/
def precedes : Text → Text → Bool
  | [], _ => true
  | _ :: _, [] => false
  | a :: s, b :: t => a.toNat < b.toNat || (a == b && precedes s t)

/-- Texts in order. -/
def sorted (ts : List Text) : List Text := ts.mergeSort precedes

/-! ## Cutting at one character -/

/-- The part before the first `c` and the part after it; the second part is empty when `c` does
not occur. -/
def breakAt (c : Char) (t : Text) : Text × Text :=
  (t.takeWhile (· != c), (t.dropWhile (· != c)).drop 1)

theorem breakAt_of_not_mem {c : Char} {t : Text} (h : c ∉ t) : breakAt c t = (t, []) := by
  induction t with
  | nil => rfl
  | cons d t ih =>
    have hd : d ≠ c := fun e => h (by simp [e])
    have ht := ih (fun m => h (by simp [m]))
    simp only [breakAt, Prod.mk.injEq] at ht
    simp [breakAt, hd, ht.1, ht.2]

theorem breakAt_append {c : Char} {a : Text} (h : c ∉ a) (b : Text) :
    breakAt c (a ++ c :: b) = (a, b) := by
  induction a with
  | nil => simp [breakAt]
  | cons d a ih =>
    have hd : d ≠ c := fun e => h (by simp [e])
    have ha := ih (fun m => h (by simp [m]))
    simp only [breakAt, Prod.mk.injEq] at ha
    simp [breakAt, hd, ha.1, ha.2]

/-! ## Cutting at every character of a class -/

/-- The pieces of a text between the characters that satisfy `p`; there is one more piece than
there are such characters. -/
def pieces (p : Char → Bool) : Text → List Text
  | [] => [[]]
  | c :: t =>
    if p c then [] :: pieces p t
    else match pieces p t with
      | [] => [[c]]
      | w :: ws => (c :: w) :: ws

theorem pieces_ne_nil (p : Char → Bool) (t : Text) : pieces p t ≠ [] := by
  induction t with
  | nil => simp [pieces]
  | cons c t _ =>
    simp only [pieces]
    split
    · simp
    · split <;> simp

/-- A character that satisfies `p` parts the pieces before it from those after it. -/
theorem pieces_append_cons {p : Char → Bool} {c : Char} (hc : p c = true) (u v : Text) :
    pieces p (u ++ c :: v) = pieces p u ++ pieces p v := by
  induction u with
  | nil => simp [pieces, hc]
  | cons d u ih =>
    simp only [List.cons_append, pieces, ih]
    split
    · rfl
    · cases hu : pieces p u with
      | nil => exact absurd hu (pieces_ne_nil p u)
      | cons w ws => rfl

/-- No piece holds a character that satisfies `p`. -/
theorem not_of_mem_pieces {p : Char → Bool} {t w : Text} (hw : w ∈ pieces p t) :
    ∀ c ∈ w, p c = false := by
  induction t generalizing w with
  | nil => simp_all [pieces]
  | cons d t ih =>
    simp only [pieces] at hw
    split at hw
    · rcases List.mem_cons.1 hw with rfl | hw
      · simp
      · exact ih hw
    · next hd =>
      split at hw
      · intro c hc; simp_all
      · next v vs hv =>
        rcases List.mem_cons.1 hw with rfl | hw
        · intro c hc
          rcases List.mem_cons.1 hc with rfl | hc
          · simpa using hd
          · exact ih (w := v) (by simp [hv]) c hc
        · exact ih (by simp [hv, hw])

/-! ## Cutting between two positions -/

/-- The characters from position `start` up to position `stop`, where a negative `stop` counts
from the end. -/
def slice (start : Nat) (stop : Int) (t : Text) : Text :=
  let last := if stop < 0 then stop + t.length else stop
  (t.take last.toNat).drop start

/-- The middle of a text is the slice between its two outer parts. -/
theorem slice_append (a m b : Text) :
    slice a.length ((a ++ m ++ b).length - b.length) (a ++ m ++ b) = m := by
  have h : ¬ (((a ++ m ++ b).length : Int) - b.length < 0) := by
    simp only [List.length_append]; omega
  have hn : (((a ++ m ++ b).length : Int) - b.length).toNat = (a ++ m).length := by
    simp only [List.length_append]; omega
  have ht : (a ++ m ++ b).take (a ++ m).length = a ++ m := List.take_left
  simp only [slice, if_neg h, hn, ht]
  exact List.drop_left

/-- Every `c` replaced by `s`; an inserted `c` is not replaced again. -/
def substitute (c : Char) (s : Text) (t : Text) : Text :=
  t.flatMap fun d => if d = c then s else [d]

@[simp] theorem substitute_nil (c : Char) (s : Text) : substitute c s [] = [] := rfl

theorem substitute_append (c : Char) (s t u : Text) : substitute c s (t ++ u) = substitute c s t ++ substitute c s u :=
  List.flatMap_append

theorem substitute_of_not_mem {c : Char} {t : Text} (h : c ∉ t) (s : Text) : substitute c s t = t := by
  induction t with
  | nil => rfl
  | cons d t ih =>
    have hd : d ≠ c := fun e => h (by simp [e])
    have ht := ih fun hmem => h (by simp [hmem])
    simp only [substitute] at ht
    simp [substitute, hd, ht]

/-- A character that takes its own place changes nothing. -/
theorem substitute_self (c : Char) (t : Text) : substitute c [c] t = t := by
  induction t with
  | nil => rfl
  | cons d t ih =>
    simp only [substitute] at ih
    by_cases hd : d = c <;> simp [substitute, hd, ih]

/-- Every `c` is replaced by `s` when the text is cut at each `c` and its pieces are joined with `s`. -/
theorem substitute_eq_intercalate (c : Char) (s t : Text) : substitute c s t = s.intercalate (t.splitOn c) := by
  induction t with
  | nil => simp [List.splitOn_nil]
  | cons d t ih =>
    simp only [substitute, List.flatMap_cons] at ih ⊢
    rw [ih, List.splitOn, List.splitOn, List.splitOnP_cons_eq_if_modifyHead]
    cases hpieces : t.splitOnP (· == c) with
    | nil => exact absurd hpieces (List.splitOnP_ne_nil _ _)
    | cons w ws =>
      by_cases hd : d = c
      · rw [if_pos hd, if_pos (by simpa using hd), List.intercalate_cons_cons]
        simp
      · rw [if_neg hd, if_neg (by simpa using hd), List.modifyHead_cons]
        cases ws <;> simp [List.intercalate_cons_cons]

/-- The decimal digits of a natural number. -/
def ofNat (n : Nat) : Text := Nat.toDigits 10 n

/-- The decimal digits of an integer after its sign. -/
def ofInt : Int → Text
  | .ofNat n => ofNat n
  | .negSucc n => '-' :: ofNat (n + 1)

end Text

end Buildfile
