import Buildfile.Description.Parts
import Mathlib.Data.List.Basic
import Mathlib.Data.List.TakeWhile
/-!
# Replacing references part by part

A text is expanded by replacing each of its parts (`expand_by_parts`): the parts are those of the text alone, so a
value that is put in is never looked at again, and only the variables that are named in the parts matter.
-/

namespace Buildfile.Description

variable {t u rest name : Text} {b b' : Bracket} {i j j' n : Nat} {vs : Variables} {c : Char} {ps qs : List Part}

/-! ## References at the start of a text -/

/-- A name that can stand between these brackets. -/
structure Bracket.Encloses (b : Bracket) (name : Text) : Prop where
  named : name ≠ []
  opening : b.opening ∉ name
  closing : b.closing ∉ name

theorem Part.length_written_reference : (Part.reference b name).written.length = name.length + 3 := by
  simp [Part.written]

theorem enclosed?_eq_some_iff : enclosed? b.opening b.closing t = some (name, n) ↔
    ∃ rest, t = name ++ b.closing :: rest ∧ b.Encloses name ∧ n = name.length + 3 := by
  unfold enclosed?
  generalize hp : (fun c => c != b.opening && c != b.closing) = p
  have hpos : ∀ c, p c = true ↔ c ≠ b.opening ∧ c ≠ b.closing := by simp [← hp]
  have hsplit := List.takeWhile_append_dropWhile (p := p) (l := t)
  have hdrop : t.drop (t.takeWhile p).length = t.dropWhile p := calc
    t.drop (t.takeWhile p).length = (t.takeWhile p ++ t.dropWhile p).drop (t.takeWhile p).length := by rw [hsplit]
    _ = t.dropWhile p := List.drop_left
  dsimp only
  rw [hdrop]
  constructor
  · intro h
    cases hrest : t.dropWhile p with
    | nil =>
      rw [hrest] at h
      cases h
    | cons d rest =>
      rw [hrest] at h
      dsimp only at h
      split at h
      · next hd =>
        obtain ⟨rfl, hne⟩ := hd
        cases h
        refine ⟨rest, by rw [← hrest, hsplit], ⟨hne, fun hmem => ?_, fun hmem => ?_⟩, rfl⟩
        · exact ((hpos _).1 (List.mem_takeWhile_imp hmem)).1 rfl
        · exact ((hpos _).1 (List.mem_takeWhile_imp hmem)).2 rfl
      · cases h
  · rintro ⟨rest, rfl, hname, rfl⟩
    have hall : ∀ c ∈ name, p c = true := fun c hc => (hpos c).2
      ⟨ne_of_mem_of_not_mem hc hname.opening, ne_of_mem_of_not_mem hc hname.closing⟩
    have hstop : ¬ p b.closing = true := fun h => ((hpos _).1 h).2 rfl
    have htake : (name ++ b.closing :: rest).takeWhile p = name := by
      rw [List.takeWhile_append_of_pos hall, List.takeWhile_cons_of_neg hstop, List.append_nil]
    rw [htake, List.dropWhile_append_of_pos hall, List.dropWhile_cons_of_neg hstop]
    exact if_pos ⟨rfl, hname.named⟩

/-- A text starts with a reference exactly if it starts with a dollar sign and a name in brackets of one kind. -/
theorem reference?_eq_some_iff : reference? t = some (name, n) ↔
    ∃ b rest, t = (Part.reference b name).written ++ rest ∧ b.Encloses name ∧ n = name.length + 3 := by
  constructor
  · intro h
    unfold reference? at h
    split at h
    · obtain ⟨rest, rfl, hname, hn⟩ := (enclosed?_eq_some_iff (b := .round)).1 h
      exact ⟨.round, rest, by simp [Part.written, Bracket.opening, Bracket.closing], hname, hn⟩
    · obtain ⟨rest, rfl, hname, hn⟩ := (enclosed?_eq_some_iff (b := .curly)).1 h
      exact ⟨.curly, rest, by simp [Part.written, Bracket.opening, Bracket.closing], hname, hn⟩
    · cases h
  · rintro ⟨b, rest, rfl, hname, hn⟩
    have henclosed := enclosed?_eq_some_iff.2 ⟨rest, rfl, hname, hn⟩
    cases b with
    | round => simpa [Part.written, reference?, Bracket.opening, Bracket.closing] using henclosed
    | curly => simpa [Part.written, reference?, Bracket.opening, Bracket.closing] using henclosed

/-! ## References at a position -/

/-- Between the opening and the closing bracket of a reference stands no bracket of its kind. -/
theorem ReferenceAt.encloses (h : ReferenceAt t b i j) : b.Encloses ((t.take j).drop (i + 2)) := by
  have hfree : ∀ d ∈ (t.take j).drop (i + 2), d ≠ b.opening ∧ d ≠ b.closing := by
    intro d hd
    obtain ⟨k, hk⟩ := List.getElem?_of_mem hd
    rw [List.getElem?_drop, List.getElem?_take] at hk
    split at hk
    · next hlt =>
      have hbehind : ¬ (t[i + 2 + k]? = some b.opening ∨ t[i + 2 + k]? = some b.closing) := fun hbracket =>
        absurd (h.first.2 ⟨Nat.le_add_right _ _, hbracket⟩) (by omega)
      simpa [hk] using hbehind
    · cases hk
  have hj := (List.getElem?_eq_some_iff.1 h.closing).1
  refine ⟨List.ne_nil_of_length_pos ?_, fun hmem => (hfree _ hmem).1 rfl, fun hmem => (hfree _ hmem).2 rfl⟩
  have hnamed := h.named
  simp only [List.length_drop, List.length_take]
  omega

theorem ReferenceAt.drop_eq (h : ReferenceAt t b i j) :
    t.drop i = (Part.reference b ((t.take j).drop (i + 2))).written ++ t.drop (j + 1) := by
  obtain ⟨hi, hdollar⟩ := List.getElem?_eq_some_iff.1 h.dollar
  obtain ⟨hi', hopening⟩ := List.getElem?_eq_some_iff.1 h.opening
  obtain ⟨hj, hclosing⟩ := List.getElem?_eq_some_iff.1 h.closing
  have hnamed := h.named
  have hlength : i + 2 ≤ (t.take j).length := by
    rw [List.length_take]
    omega
  have hname : t.drop (i + 2) = (t.take j).drop (i + 2) ++ t.drop j := by
    rw [← List.drop_append_of_le_length hlength, List.take_append_drop]
  rw [List.drop_eq_getElem_cons hi, hdollar, List.drop_eq_getElem_cons hi', hopening, hname,
    List.drop_eq_getElem_cons hj, hclosing]
  simp [Part.written]

/-- Where a text goes on with a reference, one stands. -/
theorem referenceAt_of_drop_eq (hdrop : t.drop i = (Part.reference b name).written ++ rest) (hname : b.Encloses name) :
    ReferenceAt t b i (i + 2 + name.length) := by
  have hat : ∀ k < name.length + 3, t[i + k]? = (Part.reference b name).written[k]? := by
    intro k hk
    rw [← List.getElem?_drop, hdrop, List.getElem?_append_left (by rwa [Part.length_written_reference])]
  have hinside : ∀ k < name.length, t[i + 2 + k]? = name[k]? := by
    intro k hk
    rw [Nat.add_assoc, hat (2 + k) (by omega), Nat.add_comm 2 k]
    change (name ++ [b.closing])[k]? = name[k]?
    exact List.getElem?_append_left hk
  have hclosing : t[i + 2 + name.length]? = some b.closing := by
    rw [Nat.add_assoc, hat (2 + name.length) (by omega), Nat.add_comm 2]
    simp [Part.written]
  have hpos := List.length_pos_iff.2 hname.named
  refine ⟨hat 0 (by omega), hat 1 (by omega), ⟨⟨Nat.le_add_right _ _, .inr hclosing⟩, ?_⟩, hclosing, by omega⟩
  rintro k ⟨hk, hbracket⟩
  by_contra hlt
  obtain ⟨k, rfl⟩ := Nat.exists_eq_add_of_le hk
  rw [hinside k (by omega)] at hbracket
  rcases hbracket with hopening | hclosing
  · exact hname.opening (List.mem_of_getElem? hopening)
  · exact hname.closing (List.mem_of_getElem? hclosing)

theorem ReferenceAt.unique (h : ReferenceAt t b i j) (h' : ReferenceAt t b' i j') : b = b' ∧ j = j' := by
  have hbracket : b.opening = b'.opening := Option.some.inj (h.opening.symm.trans h'.opening)
  obtain rfl : b = b' := by cases b <;> cases b' <;> first | rfl | exact absurd hbracket (by decide)
  exact ⟨rfl, h.first.unique h'.first⟩

/-! ## One part -/

theorem expand_character (h : reference? (c :: u) = none) (vs : Variables) :
    expand vs (c :: u) = (Part.character c).filled vs ++ expand vs u := by
  rw [expand, expandAfter, h]
  rfl

theorem expand_reference (h : b.Encloses name) (vs : Variables) (rest : Text) :
    expand vs ((Part.reference b name).written ++ rest) = (Part.reference b name).filled vs ++ expand vs rest := by
  have href := reference?_eq_some_iff.2 ⟨b, rest, rfl, h, rfl⟩
  generalize ht : (Part.reference b name).written ++ rest = t at href
  obtain ⟨c, u, rfl⟩ : ∃ c u, t = c :: u := ⟨_, _, ht.symm⟩
  have htake : (c :: u).take (name.length + 3) = (Part.reference b name).written := by
    rw [← ht, ← Part.length_written_reference (b := b)]
    exact List.take_left
  have hdrop : u.drop (name.length + 2) = rest := by
    have hall : (c :: u).drop (name.length + 3) = rest := by
      rw [← ht, ← Part.length_written_reference (b := b)]
      exact List.drop_left
    exact hall
  rw [expand, expandAfter, href]
  dsimp only
  rw [htake, expandAfter_eq_drop]
  exact congrArg _ (congrArg _ hdrop)

/-! ## All parts -/

/-- A text has one list of parts only. -/
theorem PartsFrom.unique (h : PartsFrom t i ps) (h' : PartsFrom t i qs) : ps = qs := by
  induction h generalizing qs with
  | stop =>
    cases h' with
    | stop => rfl
    | reference hat => exact absurd hat.dollar (by simp)
    | character hc => exact absurd hc (by simp)
  | reference hat _ ih =>
    cases h' with
    | stop => exact absurd hat.dollar (by simp)
    | reference hat' hrest =>
      obtain ⟨rfl, rfl⟩ := hat.unique hat'
      rw [ih hrest]
    | character _ hnone => exact absurd hat (hnone _ _)
  | character hc hnone _ ih =>
    cases h' with
    | stop => exact absurd hc (by simp)
    | reference hat => exact absurd hat (hnone _ _)
    | character hc' _ hrest =>
      rw [hc, Option.some.injEq] at hc'
      rw [hc', ih hrest]

/-- The parts from a position on, when they are written, give the text from there on, and when they are filled, what
becomes of it. -/
theorem exists_partsFrom (t : Text) (i : Nat) (hi : i ≤ t.length) : ∃ ps, PartsFrom t i ps ∧
    ps.flatMap Part.written = t.drop i ∧ ∀ vs, expand vs (t.drop i) = ps.flatMap (Part.filled vs) := by
  induction hrest : t.length - i using Nat.strong_induction_on generalizing i with
  | _ k ih =>
  subst hrest
  by_cases hat : ∃ b j, ReferenceAt t b i j
  · obtain ⟨b, j, hat⟩ := hat
    have hj := (List.getElem?_eq_some_iff.1 hat.closing).1
    have hnamed := hat.named
    obtain ⟨ps, hps, hwritten, hfilled⟩ := ih (t.length - (j + 1)) (by omega) (j + 1) hj rfl
    refine ⟨_, .reference hat hps, ?_, fun vs => ?_⟩
    · rw [List.flatMap_cons, hwritten, ← hat.drop_eq]
    · rw [hat.drop_eq, expand_reference hat.encloses, List.flatMap_cons, hfilled]
  · rcases Nat.lt_or_eq_of_le hi with hlt | rfl
    · have hnone : reference? (t.drop i) = none := by
        rw [Option.eq_none_iff_forall_not_mem]
        rintro ⟨name, n⟩ href
        obtain ⟨b, rest, hdrop, hname, -⟩ := reference?_eq_some_iff.1 href
        exact hat ⟨b, _, referenceAt_of_drop_eq hdrop hname⟩
      obtain ⟨ps, hps, hwritten, hfilled⟩ := ih (t.length - (i + 1)) (by omega) (i + 1) hlt rfl
      have hcons := List.drop_eq_getElem_cons hlt
      refine ⟨.character t[i] :: ps, .character (List.getElem?_eq_getElem hlt) (by simpa using hat) hps, ?_, fun vs => ?_⟩
      · rw [List.flatMap_cons, hwritten, hcons]
        rfl
      · rw [hcons] at hnone ⊢
        rw [expand_character hnone, List.flatMap_cons, hfilled]
    · exact ⟨[], .stop, by simp, fun vs => by simp [expand, expandAfter]⟩

theorem filled_of_unset {p : Part} (h : ∀ x, p.name? = some x → vs.get? x = none) : p.filled vs = p.written := by
  cases p with
  | character c => rfl
  | reference b name => simp [Part.filled, h name rfl]

theorem filled_congr {ws : Variables} {p : Part} (h : ∀ x, p.name? = some x → vs.get? x = ws.get? x) :
    p.filled vs = p.filled ws := by
  cases p with
  | character c => rfl
  | reference b name => simp [Part.filled, h name rfl]

/-- Told from its positions, a text consists of one list of parts and no other; written one behind the other they are
the text again. Whatever the variables are, expanding the text fills these parts and nothing else, so that no value is
looked at again once it is put in; a text that names no variable that is set stays as it is; and variables that agree
on the names in the text expand it alike. -/
theorem expand_by_parts (t : Text) : ∃ ps, (∀ qs, PartsFrom t 0 qs ↔ qs = ps) ∧ ps.flatMap Part.written = t ∧
    (∀ vs, expand vs t = ps.flatMap (Part.filled vs)) ∧
    (∀ vs : Variables, (∀ x ∈ ps.filterMap Part.name?, vs.get? x = none) → expand vs t = t) ∧
    ∀ vs ws : Variables, (∀ x ∈ ps.filterMap Part.name?, vs.get? x = ws.get? x) → expand vs t = expand ws t := by
  obtain ⟨ps, hps, hwritten, hfilled⟩ := exists_partsFrom t 0 (Nat.zero_le _)
  rw [List.drop_zero] at hwritten hfilled
  have hname : ∀ p ∈ ps, ∀ x, p.name? = some x → x ∈ ps.filterMap Part.name? := fun p hp x hx =>
    List.mem_filterMap.2 ⟨p, hp, hx⟩
  refine ⟨ps, fun qs => ⟨fun hqs => hqs.unique hps, fun hqs => hqs ▸ hps⟩, hwritten, hfilled, fun vs h => ?_,
    fun vs ws h => ?_⟩
  · rw [hfilled, List.flatMap_congr fun p hp => filled_of_unset fun x hx => h x (hname p hp x hx), hwritten]
  · rw [hfilled, hfilled, List.flatMap_congr fun p hp => filled_congr fun x hx => h x (hname p hp x hx)]

/-- A value is put in as it is; of a bracket inside another, and of brackets that do not fit, only the inner one counts. -/
example : expand (Table.ofList [(lit "A", lit "$(B)"), (lit "B", lit "x")]) (lit "$\x7bA\x7d $(a$(B)) $$(B) $(B\x7d $()") =
    lit "$(B) $(ax) $x $(B\x7d $()" := by decide +kernel

end Buildfile.Description
