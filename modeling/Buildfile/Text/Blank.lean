import Buildfile.Text.Basic
/-!
# Blank characters

The blank characters are those of Unicode property White_Space together with the four
information separators U+001C to U+001F. Trimming and cutting into words go by this class;
`words` is the one reading of a list of names separated by blanks.

`mem_words_ne_nil` and `not_isBlank_of_mem_words` say that a word is not empty and holds no blank.
-/

namespace Buildfile

/-- The code points of blank characters, as ranges with both ends included. -/
def blankRanges : List (Nat × Nat) :=
  [(0x09, 0x0D), (0x1C, 0x20), (0x85, 0x85), (0xA0, 0xA0), (0x1680, 0x1680), (0x2000, 0x200A),
   (0x2028, 0x2029), (0x202F, 0x202F), (0x205F, 0x205F), (0x3000, 0x3000)]

/-- A character that separates words. -/
def isBlank (c : Char) : Bool :=
  blankRanges.any fun r => r.1 ≤ c.toNat && c.toNat ≤ r.2

namespace Text

/-- Only blanks. -/
def Blanks (t : Text) : Prop := ∀ c ∈ t, isBlank c = true

instance (t : Text) : Decidable (Blanks t) := decidable_of_iff (t.all isBlank = true) List.all_eq_true

/-- The text without the blanks at its start. -/
def trimStart (t : Text) : Text := t.dropWhile isBlank

/-- The text without the blanks at its end. -/
def trimEnd (t : Text) : Text := (t.reverse.dropWhile isBlank).reverse

/-- The text without the blanks at its two ends. -/
def trim (t : Text) : Text := t.trimStart.trimEnd

/-- The maximal runs of characters that are not blank. -/
def words (t : Text) : List Text := (pieces isBlank t).filter (· ≠ [])

/-- One word: not empty, and without blanks. -/
def IsWord (t : Text) : Prop := t ≠ [] ∧ ∀ c ∈ t, isBlank c = false

instance (t : Text) : Decidable t.IsWord :=
  decidable_of_iff (t ≠ [] ∧ t.all (isBlank · = false) = true) (by simp [IsWord])

/-- No blank at either end. -/
def Trimmed (t : Text) : Prop :=
  (∀ c, t.head? = some c → isBlank c = false) ∧ ∀ c, t.getLast? = some c → isBlank c = false

instance (t : Text) : Decidable t.Trimmed :=
  decidable_of_iff (t.head?.all (isBlank · = false) = true ∧ t.getLast?.all (isBlank · = false) = true) <| by
    simp [Trimmed, Option.all_eq_true]

theorem mem_words_ne_nil {t w : Text} (h : w ∈ words t) : w ≠ [] := by
  simpa using (List.mem_filter.1 h).2

theorem not_isBlank_of_mem_words {t w : Text} (h : w ∈ words t) : ∀ c ∈ w, isBlank c = false :=
  not_of_mem_pieces (List.mem_filter.1 h).1

theorem isWord_of_mem_words {t w : Text} (h : w ∈ words t) : w.IsWord :=
  ⟨mem_words_ne_nil h, not_isBlank_of_mem_words h⟩

end Text

end Buildfile
