import Buildfile.Description.Origin
import Buildfile.Proofs.WellFormed
/-!
# Stems

A reader lets only one wildcard into a name, so the two outer texts of a pattern rule are all of its name but that
wildcard, whatever the reader was offered (`Rule.Made.parted`). From this follows how the names that the rule stands
for, their stems, and the dependencies with the stem in the place of the wildcard go together (`stems_fit`).
-/

namespace Buildfile

variable {r : Rule} {n n' : Name} {m m' : Text}

/-- The name of a pattern rule is its two outer texts around the only wildcard. -/
structure Rule.Parted (r : Rule) : Prop where
  name : r.name = r.before ++ wildcard :: r.after
  before : wildcard ∉ r.before
  after : wildcard ∉ r.after

namespace Rule

theorem parted_ofName {x : Name} {dependencies : List Name} {commands : List Command} {line : Int}
    (hx : x.count wildcard ≤ 1) (hp : (ofName x dependencies commands line).pattern = true) :
    (ofName x dependencies commands line).Parted := by
  by_cases hmem : wildcard ∈ x
  · obtain ⟨before, after, rfl, hbefore⟩ := List.eq_append_cons_of_mem hmem
    have hafter : wildcard ∉ after := by
      rw [List.count_append, List.count_cons_self] at hx
      exact List.count_eq_zero.1 (by omega)
    rw [ofName_append _ _ _ hbefore]
    exact ⟨rfl, hbefore, hafter⟩
  · rw [ofName_of_not_mem _ _ _ hmem] at hp
    cases hp

end Rule

/-! ## Rules that a reader makes -/

namespace Description

variable {rd : Reader}

/-- The pattern rules of a reader are parted, and its draft has names that will be. -/
structure Reader.Parted (rd : Reader) : Prop where
  rules : ∀ r ∈ rd.rulebook.rules, r.pattern = true → r.Parted
  draft : ∀ d, rd.draft = some d → ∀ x ∈ d.names, x.count wildcard ≤ 1

namespace Reader.Parted

theorem finish (h : rd.Parted) : rd.finish.Parted := by
  unfold Reader.finish
  cases hd : rd.draft with
  | none => exact h
  | some d =>
    refine ⟨fun r hr hp => ?_, nofun⟩
    rcases Rulebook.of_mem_addAll hr with hr | hr
    · exact h.rules r hr hp
    · obtain ⟨x, hx, rfl⟩ := List.mem_map.1 hr
      exact Rule.parted_ofName (h.draft d hd x hx) hp

theorem feed {rd' : Reader} {k : Int} {l : Text} (h : rd.Parted) (hf : rd.feed k l = .ok rd') : rd'.Parted := by
  unfold Reader.feed at hf
  cases ha : Line.read l with
  | error f =>
    rw [ha] at hf
    cases hf
  | ok a =>
    rw [ha] at hf
    dsimp only at hf
    cases a with
    | skip =>
      cases hf
      exact h
    | command silent text =>
      unfold Reader.accept at hf
      cases hd : rd.draft with
      | none =>
        rw [hd] at hf
        cases hf
      | some d =>
        rw [hd] at hf
        cases hf
        refine ⟨h.rules, ?_⟩
        rintro d' ⟨⟩
        exact h.draft d hd
    | heading names dependencies =>
      cases hf
      refine ⟨h.finish.rules, ?_⟩
      rintro d ⟨⟩
      exact fun x hx => Line.count_wildcard_of_read ha hx
    | assignment name value =>
      cases hf
      exact ⟨h.rules, h.draft⟩

theorem offer (h : rd.Parted) (o : Offer) : (rd.offer o).2.Parted := by
  cases o with
  | close =>
    rw [offer_close]
    exact h.finish
  | line k l =>
    rw [offer_line]
    cases hf : rd.feed k l with
    | ok rd' => exact h.feed hf
    | error f => exact h

theorem offerAll (h : rd.Parted) (os : List Offer) : (rd.offerAll os).2.Parted := by
  induction os generalizing rd with
  | nil => exact h
  | cons o os ih => exact ih (h.offer o)

end Reader.Parted

end Description

namespace Rule

/-- A pattern rule that a reader has made is parted. -/
theorem Made.parted (h : r.Made) (hp : r.pattern = true) : r.Parted := by
  obtain ⟨os, hr⟩ := h
  have hempty : Description.Reader.Parted {} := ⟨nofun, nofun⟩
  exact (hempty.offerAll os).rules r hr hp

/-! ## Names, stems and dependencies -/

theorem matches_append (hp : r.pattern = true) (m : Text) : r.Matches (r.before ++ m ++ r.after) = true :=
  (matches_iff hp _).2 ⟨m, rfl⟩

theorem before_stem_after (hp : r.pattern = true) (h : r.Matches n = true) : r.before ++ r.stem n ++ r.after = n := by
  obtain ⟨m, rfl⟩ := (matches_iff hp n).1 h
  rw [stem_eq]

theorem Parted.substitute_name (h : r.Parted) (m : Text) :
    Text.substitute wildcard m r.name = r.before ++ m ++ r.after := by
  rw [h.name, Text.substitute_append, Text.substitute_of_not_mem h.before, Text.substitute, List.flatMap_cons,
    if_pos rfl]
  change r.before ++ (m ++ Text.substitute wildcard m r.after) = _
  rw [Text.substitute_of_not_mem h.after, List.append_assoc]

theorem dependenciesFor_append (hp : r.pattern = true) (m : Text) : r.dependenciesFor (r.before ++ m ++ r.after) =
    r.dependencies.map fun d => m.intercalate (d.splitOn wildcard) := by
  rw [dependenciesFor, if_pos hp, stem_eq]
  exact List.map_congr_left fun d _ => Text.substitute_eq_intercalate _ _ _

end Rule

/-- The name of a pattern rule that a reader has made is its two outer texts around a wildcard, and:

* it stands for a name exactly if the name is the two outer texts around some stem;
* the stem is the only text of which this is true; in the place of the wildcard it makes the name of the rule the name
  itself; and it joins the pieces of each dependency, in their order, that was cut at its wildcards, so that a
  wildcard in the stem is not replaced again;
* names that the rule stands for are told apart by their stems. -/
theorem stems_fit (h : r.Made) (hp : r.pattern = true) :
    r.name = r.before ++ wildcard :: r.after ∧
    (∀ n, r.Matches n = true ↔ ∃ m, n = r.before ++ m ++ r.after) ∧
    (∀ n m, n = r.before ++ m ++ r.after →
      (∀ m', n = r.before ++ m' ++ r.after → m' = m) ∧ r.stem n = m ∧ Text.substitute wildcard (r.stem n) r.name = n ∧
      r.dependenciesFor n = r.dependencies.map fun d => m.intercalate (d.splitOn wildcard)) ∧
    ∀ n n', r.Matches n = true → r.Matches n' = true → r.stem n = r.stem n' → n = n' := by
  have hparted := h.parted hp
  refine ⟨hparted.name, Rule.matches_iff hp, ?_, fun n n' hn hn' hstem => ?_⟩
  · rintro n m rfl
    refine ⟨fun m' hm' => by simpa using hm'.symm, Rule.stem_eq r m, ?_, Rule.dependenciesFor_append hp m⟩
    rw [Rule.stem_eq, hparted.substitute_name]
  · rw [← Rule.before_stem_after hp hn, hstem, Rule.before_stem_after hp hn']

/-- The outer texts of `a%a` may not overlap, its stem can be a wildcard, and a dependency can have several. -/
theorem stems_fit_twice : ∃ r : Rule, r.Made ∧ r.pattern = true ∧ r.Matches (lit "a") = false ∧ r.stem (lit "aa") = [] ∧
    r.stem (lit "a%ba") = lit "%b" ∧ r.dependenciesFor (lit "a%ba") = [lit "%b.%b", lit "c"] := by
  let r : Rule := .ofName (lit "a%a") [lit "%.%", lit "c"] [] 1
  have hmade : r.Made := ⟨[.line 1 (lit "a%a b%c%: d"), .line 1 (lit "a%a: %.% c"), .close], by decide +kernel⟩
  obtain ⟨-, hmatches, hstem, -⟩ := stems_fit hmade (by decide +kernel)
  refine ⟨r, hmade, by decide +kernel, by decide +kernel, (hstem _ [] (by decide +kernel)).2.1, ?_⟩
  obtain ⟨-, hm, -, hdeps⟩ := hstem (lit "a%ba") (lit "%b") (by decide +kernel)
  exact ⟨hm, hdeps.trans (by decide +kernel)⟩

end Buildfile
