import Buildfile.Text.Basic
/-!
# Lines

A text is cut into lines at the Unicode line breaks and the information separators U+001C to
U+001E; a carriage return and a line feed together are one break. A break at the end of the text
starts no further line.
-/

namespace Buildfile

/-- A character that ends a line. -/
def isLineBreak (c : Char) : Bool :=
  let n := c.toNat
  (0x0A ≤ n && n ≤ 0x0D) || (0x1C ≤ n && n ≤ 0x1E) || n == 0x85 || n == 0x2028 || n == 0x2029

namespace Text

/-- No line breaks. -/
def Unbroken (t : Text) : Prop := ∀ c ∈ t, isLineBreak c = false

instance (t : Text) : Decidable t.Unbroken :=
  decidable_of_iff (t.all (isLineBreak · = false) = true) (by simp [Unbroken])

@[simp] theorem unbroken_nil : Unbroken [] := nofun

@[simp] theorem unbroken_cons {c : Char} {t : Text} : Unbroken (c :: t) ↔ isLineBreak c = false ∧ t.Unbroken :=
  List.forall_mem_cons

theorem unbroken_append {s t : Text} : Unbroken (s ++ t) ↔ s.Unbroken ∧ t.Unbroken := List.forall_mem_append

/-- The lines of a text, without their breaks. -/
def lines : Text → List Text
  | [] => []
  | '\r' :: '\n' :: t => [] :: lines t
  | c :: t =>
    if isLineBreak c then [] :: lines t
    else match lines t with
      | [] => [[c]]
      | l :: ls => (c :: l) :: ls

/-- Every carriage return, alone or before a line feed, turned into one line feed. -/
def unifyReturns : Text → Text
  | [] => []
  | '\r' :: '\n' :: t => '\n' :: unifyReturns t
  | c :: t => (if c = '\r' then '\n' else c) :: unifyReturns t

theorem lines_cons {c : Char} (hc : isLineBreak c = false) (t : Text) : lines (c :: t) =
    match lines t with
    | [] => [[c]]
    | l :: ls => (c :: l) :: ls := by
  have hne : c ≠ '\r' := by rintro rfl; exact absurd hc (by decide)
  rw [lines]
  · simp [hc]
  · rintro _ rfl; exact absurd rfl hne

/-- A text without line breaks is one line. -/
theorem lines_of_unbroken {t : Text} (ht : t ≠ []) (h : t.Unbroken) : lines t = [t] := by
  induction t with
  | nil => exact absurd rfl ht
  | cons c t ih =>
    obtain ⟨hc, h⟩ := unbroken_cons.1 h
    rw [lines_cons hc]
    cases t with
    | nil => rfl
    | cons d t => rw [ih (by simp) h]

/-- A line feed ends the line in front of it. -/
theorem lines_append_newline {l : Text} (h : l.Unbroken) (t : Text) : lines (l ++ '\n' :: t) = l :: lines t := by
  induction l with
  | nil => rfl
  | cons c l ih =>
    obtain ⟨hc, h⟩ := unbroken_cons.1 h
    rw [List.cons_append, lines_cons hc, ih h]

/-- Lines that are each ended by a line feed are read as these lines. -/
theorem lines_flatMap_newline {ls : List Text} (h : ∀ l ∈ ls, l.Unbroken) : lines (ls.flatMap (· ++ ['\n'])) = ls := by
  induction ls with
  | nil => rfl
  | cons l ls ih =>
    obtain ⟨hl, hls⟩ := List.forall_mem_cons.1 h
    rw [List.flatMap_cons, List.append_assoc, List.singleton_append, lines_append_newline hl, ih hls]

/-- No line holds a line break. -/
theorem unbroken_of_mem_lines {t l : Text} (hl : l ∈ lines t) : l.Unbroken := by
  induction t using lines.induct generalizing l with
  | case1 => cases hl
  | case2 t ih =>
    rw [lines] at hl
    rcases List.mem_cons.1 hl with rfl | hl
    · exact unbroken_nil
    · exact ih hl
  | case3 c t hreturn hc ih =>
    rw [lines, if_pos hc] at hl
    · rcases List.mem_cons.1 hl with rfl | hl
      · exact unbroken_nil
      · exact ih hl
    · exact hreturn
  | case4 c t hreturn hc hnil ih =>
    rw [lines, if_neg hc, hnil] at hl
    · obtain rfl : l = [c] := by simpa using hl
      simpa using hc
    · exact hreturn
  | case5 c t hreturn hc m ms hcons ih =>
    rw [lines, if_neg hc, hcons] at hl
    · rcases List.mem_cons.1 hl with rfl | hl
      · exact unbroken_cons.2 ⟨by simpa using hc, ih (by simp [hcons])⟩
      · exact ih (by simp [hcons, hl])
    · exact hreturn

theorem newline_not_mem {l : Text} (h : l.Unbroken) : '\n' ∉ l := by
  intro hmem
  have hno := h '\n' hmem
  revert hno
  decide

/-! ## Line ends -/

/-- What ends a line: a character that does, or a carriage return and a line feed together. -/
inductive IsLineEnd : Text → Prop
  | single {c : Char} : isLineBreak c = true → IsLineEnd [c]
  | pair : IsLineEnd ['\r', '\n']

/-- Lines with `e` between each two of them, and behind the last one if that is ended too. -/
def joinLines (e : Text) (ended : Bool) (ls : List Text) : Text := e.intercalate ls ++ if ended then e else []

theorem joinLines_cons_cons (e : Text) (ended : Bool) (l m : Text) (ls : List Text) :
    joinLines e ended (l :: m :: ls) = l ++ e ++ joinLines e ended (m :: ls) := by
  rw [joinLines, joinLines, List.intercalate_cons_cons, List.append_assoc]

theorem lines_cons_break {c : Char} (hc : isLineBreak c = true) {t : Text} (ht : c = '\r' → t.head? ≠ some '\n') :
    lines (c :: t) = [] :: lines t := by
  rw [lines, if_pos hc]
  rintro u rfl rfl
  exact ht rfl rfl

/-- A line end ends the line in front of it, unless it is the first half of a pair. -/
theorem lines_append_end {l e : Text} (hl : l.Unbroken) (he : e.IsLineEnd) {t : Text}
    (ht : e = ['\r'] → t.head? ≠ some '\n') : lines (l ++ e ++ t) = l :: lines t := by
  induction l with
  | nil =>
    cases he with
    | single hc => exact lines_cons_break hc fun h => ht (by rw [h])
    | pair => rfl
  | cons c l ih =>
    obtain ⟨hc, hl⟩ := unbroken_cons.1 hl
    rw [List.cons_append, List.cons_append, lines_cons hc, ih hl]

theorem head?_joinLines_ne_newline {l : Text} (hl : l.Unbroken) (ended : Bool) (ls : List Text) :
    (joinLines ['\r'] ended (l :: ls)).head? ≠ some '\n' := by
  cases l with
  | nil => cases ls <;> cases ended <;> simp [joinLines, List.intercalate]
  | cons c l =>
    have hc : c ≠ '\n' := by rintro rfl; exact absurd (unbroken_cons.1 hl).1 (by decide)
    cases ls <;> simpa [joinLines, List.intercalate] using hc

/-- A text has the same lines after its carriage returns have become line feeds. -/
theorem lines_unifyReturns (t : Text) : lines (unifyReturns t) = lines t := by
  have hreturn : isLineBreak '\r' = true := by decide
  have hfeed : isLineBreak '\n' = true := by decide
  induction t using unifyReturns.induct with
  | case1 => rfl
  | case2 t ih => rw [unifyReturns, lines, lines_cons_break hfeed nofun, ih]
  | case3 c t hpair ih =>
    have hhead : c = '\r' → t.head? ≠ some '\n' := by
      intro hc h
      obtain ⟨u, rfl⟩ := List.head?_eq_some_iff.1 h
      exact hpair u hc rfl
    have hunify : unifyReturns (c :: t) = (if c = '\r' then '\n' else c) :: unifyReturns t := by
      rw [unifyReturns]
      exact hpair
    rw [hunify]
    by_cases hc : c = '\r'
    · rw [if_pos hc, lines_cons_break hfeed nofun, ih, hc, lines_cons_break hreturn fun _ => hhead hc]
    · rw [if_neg hc]
      cases hbreak : isLineBreak c with
      | true => rw [lines_cons_break hbreak fun h => absurd h hc, ih, lines_cons_break hbreak fun h => absurd h hc]
      | false => rw [lines_cons hbreak, ih, lines_cons hbreak]

end Text

end Buildfile
