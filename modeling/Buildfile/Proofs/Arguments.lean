import Buildfile.Arguments
/-!
# What the arguments of a command line hold

Cutting a command line into arguments drops blanks, and where quotes work also quotes and backslashes. Every
other character of the line is found again in one of the arguments, and no argument holds a character that
the line does not.
-/

namespace Buildfile

variable {c : Char} {t : Text} {args : List Text}

/-- A character that has no meaning for the cut, whichever way the line is cut. -/
structure Ordinary (c : Char) : Prop where
  blank : isBlank c = false
  quote : Arguments.isQuote c = false
  escape : c ≠ '\\'

theorem Ordinary.ne_of_isQuote {d : Char} (hc : Ordinary c) (hd : Arguments.isQuote d = true) : c ≠ d := by
  rintro rfl
  rw [hc.quote] at hd
  cases hd

theorem Arguments.isBlank_of_isSeparator (hc : Arguments.isSeparator c = true) : isBlank c = true := by
  simp only [Arguments.isSeparator, Bool.or_eq_true, beq_iff_eq] at hc
  rcases hc with ((rfl | rfl) | rfl) | rfl <;> decide

theorem Ordinary.ne_of_isSeparator {d : Char} (hc : Ordinary c) (hd : Arguments.isSeparator d = true) : c ≠ d := by
  rintro rfl
  have hblank := Arguments.isBlank_of_isSeparator hd
  rw [hc.blank] at hblank
  cases hblank

theorem Text.mem_pieces_iff {p : Char → Bool} (hc : p c = false) : (∃ w ∈ Text.pieces p t, c ∈ w) ↔ c ∈ t := by
  induction t with
  | nil => simp [Text.pieces]
  | cons d t ih =>
    simp only [Text.pieces]
    split
    · next hd =>
      have hne : c ≠ d := by
        rintro rfl
        rw [hc] at hd
        cases hd
      simp [ih, hne]
    · split
      · next hnil => exact absurd hnil (Text.pieces_ne_nil p t)
      · next w ws hcons =>
        rw [hcons] at ih
        simp only [List.mem_cons, exists_eq_or_imp] at ih ⊢
        rw [or_assoc, ih]

theorem Text.mem_words_iff (hc : isBlank c = false) : (∃ w ∈ Text.words t, c ∈ w) ↔ c ∈ t := by
  rw [← Text.mem_pieces_iff hc]
  constructor
  · rintro ⟨w, hw, hmem⟩
    exact ⟨w, (List.mem_filter.1 hw).1, hmem⟩
  · rintro ⟨w, hw, hmem⟩
    exact ⟨w, List.mem_filter.2 ⟨hw, by simpa using List.ne_nil_of_mem hmem⟩, hmem⟩

namespace Arguments

/-- The argument that a scan has begun. -/
def Scan.word : Scan → Text
  | between => []
  | inWord w | inQuote _ w | escaped _ w => w

/-- A quoted part that is open was opened by a quote. -/
def Scan.Proper : Scan → Prop
  | inQuote q _ | escaped (some q) _ => isQuote q = true
  | _ => True

theorem Scan.start_proper (w : Text) (d : Char) : (Scan.start w d).Proper := by
  unfold Scan.start
  split
  · next hd => exact hd
  · split <;> trivial

theorem Scan.mem_word_start (hc : Ordinary c) (w : Text) (d : Char) : c ∈ (Scan.start w d).word ↔ c ∈ w ∨ c = d := by
  unfold Scan.start
  split
  · next hd => simp [Scan.word, hc.ne_of_isQuote hd]
  · split
    · next hd => simp [Scan.word, hd, hc.escape]
    · simp [Scan.word, or_comm]

/-- What a scan has begun and the rest of the line hold together what its arguments hold. -/
theorem mem_scan_iff (hc : Ordinary c) {st : Scan} (hst : st.Proper) (h : scan st t = .ok args) :
    (∃ a ∈ args, c ∈ a) ↔ c ∈ st.word ∨ c ∈ t := by
  induction st, t using scan.induct generalizing args with
  | case1 =>
    cases h
    simp [Scan.word]
  | case2 w =>
    cases h
    simp [Scan.word]
  | case3 q w => cases h
  | case4 q w => cases h
  | case5 d t hd ih =>
    rw [scan, if_pos hd] at h
    rw [ih trivial h]
    simp [Scan.word, hc.ne_of_isSeparator hd]
  | case6 d t hd ih =>
    rw [scan, if_neg hd] at h
    rw [ih (Scan.start_proper [] d) h, Scan.mem_word_start hc]
    simp [Scan.word]
  | case7 w d t hd ih =>
    rw [scan, if_pos hd] at h
    cases hrest : scan .between t with
    | error f =>
      rw [hrest] at h
      cases h
    | ok args' =>
      rw [hrest] at h
      cases h
      have hih := ih trivial hrest
      simp only [Scan.word, List.not_mem_nil, false_or] at hih
      simp [Scan.word, hih, hc.ne_of_isSeparator hd]
  | case8 w d t hd ih =>
    rw [scan, if_neg hd] at h
    rw [ih (Scan.start_proper w d) h, Scan.mem_word_start hc]
    simp [Scan.word, or_assoc]
  | case9 w d t ih =>
    rw [scan, if_pos rfl] at h
    rw [ih trivial h]
    simp [Scan.word, hc.ne_of_isQuote hst]
  | case10 q w d t hq hd ih =>
    rw [scan, if_neg hq, if_pos hd] at h
    rw [ih hst h]
    simp [Scan.word, hd.1, hc.escape]
  | case11 q w d t hq hd ih =>
    rw [scan, if_neg hq, if_neg hd] at h
    rw [ih hst h]
    simp [Scan.word, or_assoc, or_left_comm]
  | case12 w d t ih =>
    rw [scan] at h
    rw [ih trivial h]
    simp [Scan.word, or_assoc, or_left_comm]
  | case13 q w d t ih =>
    rw [scan] at h
    rw [ih hst h]
    -- the backslash is kept before some characters, and is none of those looked for
    split <;> simp [Scan.word, hc.escape, or_assoc, or_left_comm]

end Arguments

/-- Every ordinary character of a command line is in one of its arguments, and there is no other in them. -/
theorem Quoting.mem_split_iff {q : Quoting} (hc : Ordinary c) (h : q.split t = .ok args) :
    (∃ a ∈ args, c ∈ a) ↔ c ∈ t := by
  cases q with
  | plain =>
    cases h
    exact Text.mem_words_iff hc.blank
  | shell =>
    have hscan : (∃ a ∈ args, c ∈ a) ↔ c ∈ Arguments.Scan.between.word ∨ c ∈ t :=
      Arguments.mem_scan_iff hc trivial h
    simpa [Arguments.Scan.word] using hscan

end Buildfile
