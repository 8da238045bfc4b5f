import Buildfile.Text.Blank
import Mathlib.Data.List.TakeWhile
/-!
# Blanks and words

How a text is cut into words: blanks at its start do not matter, a blank in its middle parts the words
before it from those after it, and a text has no word exactly if it has blanks only. A word stands at the start
of its text or behind a blank.
-/

namespace Buildfile.Text

variable {t u v : Text} {c : Char}

theorem ne_of_isBlank {d : Char} (hc : isBlank c = true) (hd : isBlank d = false) : c ≠ d := by
  rintro rfl
  rw [hc] at hd
  cases hd

theorem dropWhile_of_not_mem (h : c ∉ t) : t.dropWhile (· != c) = [] := by
  rw [List.dropWhile_eq_nil_iff]
  intro d hd
  have hne : d ≠ c := ne_of_mem_of_not_mem hd h
  simp [hne]

theorem trimStart_eq_nil_iff : trimStart t = [] ↔ Blanks t := List.dropWhile_eq_nil_iff

theorem trimStart_append (hu : Blanks u) (v : Text) : trimStart (u ++ v) = trimStart v :=
  List.dropWhile_append_of_pos hu

theorem trimStart_cons (hc : isBlank c = false) (t : Text) : trimStart (c :: t) = c :: t :=
  List.dropWhile_cons_of_neg (by simp [hc])

/-- A text is blanks, and behind them what trimming leaves. -/
theorem exists_blanks_append_trimStart (t : Text) : ∃ u, Blanks u ∧ t = u ++ trimStart t :=
  ⟨t.takeWhile isBlank, fun _ hc => List.mem_takeWhile_imp hc, List.takeWhile_append_dropWhile.symm⟩

theorem not_isBlank_of_head?_trimStart (h : (trimStart t).head? = some c) : isBlank c = false := by
  have hnot := List.head?_dropWhile_not isBlank t
  unfold trimStart at h
  rw [h] at hnot
  simpa using hnot

theorem trimStart_append_of_ne_nil (hu : trimStart u ≠ []) (v : Text) : trimStart (u ++ v) = trimStart u ++ v := by
  obtain ⟨a, ha, hsplit⟩ := exists_blanks_append_trimStart u
  cases hstart : trimStart u with
  | nil => exact absurd hstart hu
  | cons c t =>
    have hc : isBlank c = false := not_isBlank_of_head?_trimStart (by rw [hstart]; rfl)
    rw [hsplit, hstart, List.append_assoc, trimStart_append ha]
    exact trimStart_cons hc (t ++ v)

theorem blanks_reverse : Blanks t.reverse ↔ Blanks t := by
  simp [Blanks]

theorem blanks_append : Blanks (u ++ v) ↔ Blanks u ∧ Blanks v := List.forall_mem_append

theorem trimEnd_eq_nil_iff : trimEnd t = [] ↔ Blanks t := by
  unfold trimEnd
  rw [List.reverse_eq_nil_iff, ← blanks_reverse]
  exact trimStart_eq_nil_iff

theorem trimEnd_append (hv : Blanks v) (u : Text) : trimEnd (u ++ v) = trimEnd u := by
  unfold trimEnd
  rw [List.reverse_append, List.dropWhile_append_of_pos (blanks_reverse.2 hv)]

theorem trimEnd_concat (hc : isBlank c = false) (t : Text) : trimEnd (t ++ [c]) = t ++ [c] := by
  simp [trimEnd, hc]

/-- A text is what trimming its end leaves, and behind it blanks. -/
theorem exists_trimEnd_append_blanks (t : Text) : ∃ v, Blanks v ∧ t = trimEnd t ++ v := by
  obtain ⟨u, hu, ht⟩ := exists_blanks_append_trimStart t.reverse
  refine ⟨u.reverse, blanks_reverse.2 hu, ?_⟩
  have hrev := congrArg List.reverse ht
  rwa [List.reverse_reverse, List.reverse_append] at hrev

theorem words_append_cons (hc : isBlank c = true) (u v : Text) : words (u ++ c :: v) = words u ++ words v := by
  unfold words
  rw [pieces_append_cons hc, List.filter_append]

theorem words_cons_of_isBlank (hc : isBlank c = true) (t : Text) : words (c :: t) = words t :=
  words_append_cons hc [] t

/-- A text that starts with no blank starts with a word. -/
theorem exists_mem_words (hc : isBlank c = false) (t : Text) : ∃ w ∈ words (c :: t), w.head? = some c := by
  unfold words pieces
  rw [if_neg (by simp [hc])]
  split
  · exact ⟨[c], by simp, rfl⟩
  · next w ws _ => exact ⟨c :: w, by simp, rfl⟩

theorem words_eq_nil_iff : words t = [] ↔ Blanks t := by
  induction t with
  | nil => simp [words, pieces, Blanks]
  | cons c t ih =>
    by_cases hc : isBlank c = true
    · rw [words_cons_of_isBlank hc, ih]
      simp [Blanks, hc]
    · have hne : words (c :: t) ≠ [] := by
        simp only [words, pieces, if_neg hc]
        split <;> simp
      simp [hne, Blanks, hc]

theorem words_of_isWord (h : t.IsWord) : words t = [t] := by
  obtain ⟨hne, hword⟩ := h
  have hpieces : ∀ u : Text, (∀ c ∈ u, isBlank c = false) → pieces isBlank u = [u] := by
    intro u hu
    induction u with
    | nil => rfl
    | cons c u ih =>
      rw [pieces, if_neg (by simp [hu c]), ih fun d hd => hu d (List.mem_cons_of_mem _ hd)]
  simp [words, hpieces t hword, hne]

/-- Words that are joined by blanks are read as these words. -/
theorem words_intercalate (hc : isBlank c = true) {ws : List Text} (h : ∀ w ∈ ws, w.IsWord) :
    words ([c].intercalate ws) = ws := by
  induction ws with
  | nil => rfl
  | cons w ws ih =>
    have hw := words_of_isWord (h w List.mem_cons_self)
    have hws := ih fun v hv => h v (List.mem_cons_of_mem _ hv)
    cases ws with
    | nil => rw [List.intercalate_singleton, hw]
    | cons v ws =>
      rw [List.intercalate_cons_cons, List.append_assoc, List.singleton_append, words_append_cons hc, hw, hws]
      rfl

theorem mem_intercalate {d : Char} {ws : List Text} (h : d ∈ [c].intercalate ws) : d = c ∨ ∃ w ∈ ws, d ∈ w := by
  induction ws with
  | nil => cases h
  | cons w ws ih =>
    cases ws with
    | nil =>
      rw [List.intercalate_singleton] at h
      exact .inr ⟨w, List.mem_cons_self, h⟩
    | cons v ws =>
      rw [List.intercalate_cons_cons, List.append_assoc, List.singleton_append, List.mem_append, List.mem_cons] at h
      rcases h with h | h | h
      · exact .inr ⟨w, List.mem_cons_self, h⟩
      · exact .inl h
      · rcases ih h with h | ⟨u, hu, hd⟩
        · exact .inl h
        · exact .inr ⟨u, List.mem_cons_of_mem _ hu, hd⟩

/-- The first piece stands at the start of a text, and every other one behind a character it was cut at. -/
theorem pieces_spec {p : Char → Bool} {w : Text} {ws : List Text} (h : pieces p t = w :: ws) :
    w <+: t ∧ ∀ x ∈ ws, ∃ a c b, p c = true ∧ t = a ++ c :: (x ++ b) := by
  induction t generalizing w ws with
  | nil =>
    obtain ⟨rfl, rfl⟩ := List.cons.inj h
    exact ⟨List.prefix_rfl, nofun⟩
  | cons d t ih =>
    cases ht : pieces p t with
    | nil => exact absurd ht (pieces_ne_nil p t)
    | cons y ys =>
      obtain ⟨hfirst, hothers⟩ := ih ht
      -- the pieces behind the first one of the rest keep their places
      have hbehind : ∀ x ∈ ys, ∃ a c b, p c = true ∧ d :: t = a ++ c :: (x ++ b) := by
        intro x hx
        obtain ⟨a, c, b, hc, rfl⟩ := hothers x hx
        exact ⟨d :: a, c, b, hc, rfl⟩
      unfold pieces at h
      rw [ht] at h
      split at h
      · next hd =>
        obtain ⟨rfl, rfl⟩ := List.cons.inj h
        refine ⟨List.nil_prefix, fun x hx => ?_⟩
        rcases List.mem_cons.1 hx with rfl | hx
        · obtain ⟨b, rfl⟩ := hfirst
          exact ⟨[], d, b, hd, rfl⟩
        · exact hbehind x hx
      · obtain ⟨rfl, rfl⟩ := List.cons.inj h
        exact ⟨List.prefix_cons_inj d |>.2 hfirst, hbehind⟩

/-- A word stands at the start of a text or behind a blank. -/
theorem exists_of_mem_words {w : Text} (h : w ∈ words t) :
    ∃ a b, t = a ++ (w ++ b) ∧ ∀ c, a.getLast? = some c → isBlank c = true := by
  have hmem := (List.mem_filter.1 h).1
  cases ht : pieces isBlank t with
  | nil => exact absurd ht (pieces_ne_nil isBlank t)
  | cons x xs =>
    obtain ⟨hfirst, hothers⟩ := pieces_spec ht
    rw [ht] at hmem
    rcases List.mem_cons.1 hmem with rfl | hmem
    · obtain ⟨b, rfl⟩ := hfirst
      exact ⟨[], b, rfl, nofun⟩
    · obtain ⟨a, d, b, hd, rfl⟩ := hothers w hmem
      refine ⟨a ++ [d], b, by simp, fun c hc => ?_⟩
      obtain rfl : d = c := by simpa using hc
      exact hd

/-! ## Trimmed texts -/

theorem mem_of_mem_trim (h : c ∈ trim t) : c ∈ t := by
  have hstart : c ∈ trimStart t := by
    have hrev : c ∈ (trimStart t).reverse.dropWhile isBlank := List.mem_reverse.1 h
    exact List.mem_reverse.1 ((List.dropWhile_sublist _).subset hrev)
  exact (List.dropWhile_sublist _).subset hstart

theorem trimmed_trim (t : Text) : (trim t).Trimmed := by
  obtain ⟨v, -, ht⟩ := exists_trimEnd_append_blanks (trimStart t)
  change trimStart t = trim t ++ v at ht
  refine ⟨fun c hc => not_isBlank_of_head?_trimStart (t := t) ?_, fun c hc => ?_⟩
  · rw [ht, List.head?_append, hc]
    rfl
  · refine not_isBlank_of_head?_trimStart (t := (trimStart t).reverse) ?_
    unfold trim trimEnd at hc
    rwa [List.getLast?_reverse] at hc

theorem trim_eq_self (h : t.Trimmed) : trim t = t := by
  obtain ⟨hstart, hend⟩ := h
  have hleft : trimStart t = t := by
    cases t with
    | nil => rfl
    | cons c t => exact trimStart_cons (hstart c rfl) t
  rw [trim, hleft]
  rcases List.eq_nil_or_concat t with rfl | ⟨u, c, rfl⟩
  · rfl
  · rw [List.concat_eq_append] at hend ⊢
    exact trimEnd_concat (hend c (by simp)) u

end Buildfile.Text
