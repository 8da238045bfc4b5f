import Buildfile.Description.Grammar
import Buildfile.Proofs.Words
/-!
# Kinds of lines and comments

The kind of a line and the text before its comment are what the grammar of a description says: the kind
is known from the characters of the line, and so is where its comment starts.
-/

namespace Buildfile.Description

variable {l u v : Text} {c : Char} {k : LineKind}

/-! ## Kinds -/

theorem passed_iff : Passed l ↔ l.trimStart = [] ∨ l.trimStart.head? = some '#' := by
  constructor
  · rintro ⟨u, v, rfl, hu, hv⟩
    rw [Text.trimStart_append hu]
    rcases hv with rfl | hv
    · exact .inl rfl
    · obtain ⟨t, rfl⟩ := List.head?_eq_some_iff.1 hv
      right
      rw [Text.trimStart_cons (by decide)]
      rfl
  · intro h
    obtain ⟨u, hu, hl⟩ := Text.exists_blanks_append_trimStart l
    exact ⟨u, l.trimStart, hl, hu, h⟩

namespace LineKind

theorem of_passed (h : Passed l) : of l = .skip := by
  unfold of
  rw [if_pos (passed_iff.1 h)]

theorem of_tab (said : ¬ Passed l) (tab : l.head? = some '\t') : of l = .command := by
  unfold of
  rw [if_neg (mt passed_iff.2 said), if_pos tab]

/-- A line has neither a colon nor an equals sign, or one of them that comes first. -/
theorem first_mark (l : Text) : (':' ∉ l ∧ '=' ∉ l) ∨
    ∃ u c v, l = u ++ c :: v ∧ (c = ':' ∨ c = '=') ∧ ':' ∉ u ∧ '=' ∉ u := by
  induction l with
  | nil => simp
  | cons d l ih =>
    by_cases hd : d = ':' ∨ d = '='
    · exact .inr ⟨[], d, l, rfl, hd, by simp, by simp⟩
    · obtain ⟨hcolon, hequals⟩ := not_or.1 hd
      rcases ih with ⟨colon, equals⟩ | ⟨u, c, v, rfl, mark, colon, equals⟩
      · left
        simp [colon, equals, Ne.symm hcolon, Ne.symm hequals]
      · refine .inr ⟨d :: u, c, v, rfl, mark, ?_, ?_⟩
        · simp [colon, Ne.symm hcolon]
        · simp [equals, Ne.symm hequals]

section

variable (said : ¬ Passed l) (untabbed : l.head? ≠ some '\t')

include said untabbed

theorem of_unmarked (colon : ':' ∉ l) (equals : '=' ∉ l) : of l = .invalid := by
  have hdrop : l.dropWhile (fun c => c != ':' && c != '=') = [] := by
    rw [List.dropWhile_eq_nil_iff]
    intro c hc
    have hne : c ≠ ':' := ne_of_mem_of_not_mem hc colon
    have hne' : c ≠ '=' := ne_of_mem_of_not_mem hc equals
    simp [hne, hne']
  unfold of
  rw [if_neg (mt passed_iff.2 said), if_neg untabbed, hdrop]

/-- The first colon or equals sign and what is behind it decide the kind. -/
theorem of_marked (split : l = u ++ c :: v) (mark : c = ':' ∨ c = '=') (colon : ':' ∉ u) (equals : '=' ∉ u) :
    of l = if c = ':' ∧ v.head? ≠ some '=' then .target else .variable := by
  have hdrop : l.dropWhile (fun c => c != ':' && c != '=') = c :: v := by
    rw [split, List.dropWhile_append_of_pos]
    · rcases mark with rfl | rfl <;> rfl
    · intro d hd
      have hne : d ≠ ':' := ne_of_mem_of_not_mem hd colon
      have hne' : d ≠ '=' := ne_of_mem_of_not_mem hd equals
      simp [hne, hne']
  unfold of
  rw [if_neg (mt passed_iff.2 said), if_neg untabbed, hdrop]
  rcases mark with rfl | rfl
  · cases v with
    | nil => rfl
    | cons d v =>
      by_cases hd : d = '='
      · subst hd
        rfl
      · simp [hd]
  · rfl

end

theorem of_head (h : IsHead l) : of l = .target := by
  obtain ⟨said, untabbed, u, v, split, colon, equals, hv⟩ := h
  rw [of_marked said untabbed split (.inl rfl) colon equals, if_pos ⟨rfl, hv⟩]

/-- The kind of a line is the one it looks like. -/
theorem of_eq_iff : of l = k ↔ HasKind l k := by
  constructor
  · rintro rfl
    by_cases hpassed : Passed l
    · rw [of_passed hpassed]
      exact .skip hpassed
    by_cases htab : l.head? = some '\t'
    · rw [of_tab hpassed htab]
      exact .command hpassed htab
    rcases first_mark l with ⟨colon, equals⟩ | ⟨u, c, v, split, mark, colon, equals⟩
    · rw [of_unmarked hpassed htab colon equals]
      exact .invalid hpassed htab colon equals
    have hof := of_marked hpassed htab split mark colon equals
    split_ifs at hof with hc
    · obtain ⟨rfl, hv⟩ := hc
      rw [hof]
      exact .target ⟨hpassed, htab, u, v, split, colon, equals, hv⟩
    · rw [hof]
      refine .variable hpassed htab (fun hhead => ?_) ?_
      · rw [of_head hhead] at hof
        cases hof
      · -- a colon that comes first and makes no head has an equals sign behind it
        rcases mark with rfl | rfl
        · have hv : v.head? = some '=' := by simpa using hc
          obtain ⟨t, rfl⟩ := List.head?_eq_some_iff.1 hv
          simp [split]
        · simp [split]
  · rintro (hpassed | ⟨said, tab⟩ | hhead | ⟨said, untabbed, hhead, hequals⟩ | ⟨said, untabbed, colon, equals⟩)
    · exact of_passed hpassed
    · exact of_tab said tab
    · exact of_head hhead
    · rcases first_mark l with ⟨_, equals⟩ | ⟨u, c, v, split, mark, colon, equals⟩
      · exact absurd hequals equals
      · rw [of_marked said untabbed split mark colon equals, if_neg]
        rintro ⟨rfl, hv⟩
        exact hhead ⟨said, untabbed, u, v, split, colon, equals, hv⟩
    · exact of_unmarked said untabbed colon equals

end LineKind

theorem isHead_iff : IsHead l ↔ LineKind.of l = .target := by
  rw [LineKind.of_eq_iff]
  constructor
  · exact .target
  · rintro ⟨⟩
    assumption

/-! ## Comments -/

theorem fresh_nil : Fresh [] := nofun

theorem fresh_concat : Fresh (u ++ [c]) ↔ isBlank c = true := by
  simp [Fresh]

/-- What is left of a text behind `p`, where `fresh` tells whether a word may start after `p`. -/
theorem dropCommentFrom_spec {fresh : Bool} (p : Text) (hfresh : fresh = true ↔ Fresh p) (hl : '\n' ∉ l) :
    (∀ s t, dropCommentFrom fresh l = s ++ '#' :: t → ¬ Fresh (p ++ s)) ∧
      (l = dropCommentFrom fresh l ∨
        Fresh (p ++ dropCommentFrom fresh l) ∧ ∃ v, l = dropCommentFrom fresh l ++ '#' :: v) := by
  induction l generalizing fresh p with
  | nil => simp [dropCommentFrom]
  | cons d l ih =>
    have hl := List.not_mem_of_not_mem_cons hl
    unfold dropCommentFrom
    split
    · next hd =>
      -- no line break is in the way, so the comment reaches to the end
      have hdrop : l.dropWhile (· != '\n') = [] := Text.dropWhile_of_not_mem hl
      obtain ⟨rfl, hb⟩ := hd
      rw [hdrop]
      simp [hfresh.1 hb]
    · next hd =>
      obtain ⟨hinside, hend⟩ := ih (p ++ [d]) fresh_concat.symm hl
      refine ⟨?_, ?_⟩
      · intro s t hs
        cases s with
        | nil =>
          obtain ⟨rfl, -⟩ := List.cons.inj hs
          rw [List.append_nil, ← hfresh]
          intro hb
          exact hd ⟨rfl, hb⟩
        | cons e s =>
          rw [List.cons_append, List.cons.injEq] at hs
          obtain ⟨rfl, hs⟩ := hs
          simpa using hinside s t hs
      · rcases hend with heq | ⟨hfr, v, hv⟩
        · exact .inl (congrArg _ heq)
        · refine .inr ⟨by simpa using hfr, v, congrArg _ hv⟩

/-- A comment that starts behind `a` is none of what stands before another comment. -/
theorem eq_nil_of_fresh {a s : Text} (hinside : ∀ s' t, a ++ s = s' ++ '#' :: t → ¬ Fresh s') (hfresh : Fresh a)
    (hs : '#' :: u = s ++ v) : s = [] := by
  cases s with
  | nil => rfl
  | cons d s =>
    obtain ⟨rfl, -⟩ := List.cons.inj hs
    exact absurd hfresh (hinside a s rfl)

theorem Uncommented.unique {a b : Text} (ha : Uncommented l a) (hb : Uncommented l b) : a = b := by
  obtain ⟨hinside, hend⟩ := ha
  obtain ⟨hinside', hend'⟩ := hb
  rcases hend with rfl | ⟨hfresh, v, rfl⟩
  · rcases hend' with rfl | ⟨hfresh', v', rfl⟩
    · rfl
    · exact absurd hfresh' (hinside b v' rfl)
  · rcases hend' with rfl | ⟨hfresh', v', heq⟩
    · exact absurd hfresh (hinside' a v rfl)
    · -- one of the two goes on where the other one ends
      rcases List.append_eq_append_iff.1 heq with ⟨s, rfl, hs⟩ | ⟨s, rfl, hs⟩
      · rw [eq_nil_of_fresh hinside' hfresh hs, List.append_nil]
      · rw [eq_nil_of_fresh hinside hfresh' hs, List.append_nil]

/-- On one line, dropping the comment leaves the text before the first `#` that starts a word. -/
theorem uncommented_iff (hl : '\n' ∉ l) : Uncommented l u ↔ u = dropComment l := by
  have hdrop : Uncommented l (dropComment l) := dropCommentFrom_spec [] (by simp [fresh_nil]) hl
  constructor
  · intro h
    exact h.unique hdrop
  · rintro rfl
    exact hdrop

/-! ## Texts without comments -/

theorem Fresh.of_append (h : Fresh (u ++ v)) : Fresh v := by
  intro d hd
  refine h d ?_
  rw [List.getLast?_append, hd]
  rfl

theorem uncommented_self_iff : Uncommented u u ↔ ∀ s t, u = s ++ '#' :: t → ¬ Fresh s :=
  ⟨And.left, fun h => ⟨h, .inl rfl⟩⟩

/-- Two texts without comments have none when another character is put between them. -/
theorem Uncommented.append_cons (hu : Uncommented u u) (hc : c ≠ '#') (hv : Uncommented v v) :
    Uncommented (u ++ c :: v) (u ++ c :: v) := by
  refine uncommented_self_iff.2 fun s t hsplit hfresh => ?_
  rcases List.append_eq_append_iff.1 hsplit with ⟨a, rfl, ha⟩ | ⟨a, rfl, ha⟩
  · cases a with
    | nil => exact hc (List.cons.inj ha).1
    | cons d a =>
      obtain ⟨rfl, rfl⟩ := List.cons.inj ha
      rw [List.append_cons] at hfresh
      exact hv.1 a t rfl hfresh.of_append
  · cases a with
    | nil => exact hc (List.cons.inj ha).1.symm
    | cons d a =>
      obtain ⟨rfl, -⟩ := List.cons.inj ha
      exact hu.1 s a rfl hfresh

theorem Uncommented.not_passed (h : Uncommented u u) (said : ¬ Text.Blanks u) : ¬ Passed u := by
  rintro ⟨a, b, rfl, ha, rfl | hb⟩
  · rw [List.append_nil] at said
    exact said ha
  · obtain ⟨t, rfl⟩ := List.head?_eq_some_iff.1 hb
    exact h.1 a t rfl fun d hd => ha d (List.mem_of_getLast? hd)

end Buildfile.Description
