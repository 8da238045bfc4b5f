import Buildfile.Proofs.Redefinition
import Buildfile.Use
import Mathlib.Data.List.Dedup
/-!
# The priority of rules

A pattern rule that is added comes behind all others that stand for a name (`match?_add_self`), also when it was
there before. So the rule for a name is told from the additions alone, whatever else a rulebook was used for: it is
the rule whose last addition comes first (`priority_by_last_addition`).
-/

namespace Buildfile.Rulebook

variable {b : Rulebook} {added : List Rule} {r : Rule} {n : Name}

/-! ## Names that were added -/

theorem contains_addAll : (addAll {} added).contains n = true ↔ ∃ r ∈ added, r.name = n := by
  simp only [contains_iff, get?_addAll]
  constructor
  · rintro ⟨r, hn, i, hi⟩
    exact ⟨r, List.mem_of_getElem? hi.found, hn⟩
  · rintro ⟨r, hr, rfl⟩
    obtain ⟨i, s, hs, hname⟩ := exists_lastAt hr
    exact ⟨s, hname, i, hs⟩

theorem size_addAll : (addAll {} added).size = (added.map (·.name)).dedup.length := by
  have hperm : (addAll {} added).names.Perm (added.map (·.name)).dedup := by
    refine (List.perm_ext_iff_of_nodup nodup_names_addAll (List.nodup_dedup _)).2 fun n => ?_
    rw [List.mem_dedup, List.mem_map, ← contains_addAll, contains, List.any_eq_true]
    simp [names]
  rw [← hperm.length_eq, names, List.length_map, size]

/-! ## Pattern rules -/

theorem match?_eq (b : Rulebook) (n : Name) : b.match? n = b.rules.find? (·.Matches n) := by
  rw [match?, patterns, List.find?_filter]
  congr 1
  funext r
  cases h : r.Matches n with
  | true => simp [Rule.pattern_of_matches h]
  | false => simp

theorem match?_eq_none : b.match? n = none ↔ ∀ r ∈ b.rules, r.Matches n = false := by
  simp [match?_eq]

/-- A rule that has just been added is found for a name only if no other rule stands for it. -/
theorem match?_add_self : (b.add r).match? n = some r ↔
    r.Matches n = true ∧ ∀ s ∈ b.rules, s.Matches n = true → s.name = r.name := by
  rw [match?_eq, add, List.find?_append, Option.or_eq_some_iff]
  constructor
  · rintro (hr | ⟨hnone, hr⟩)
    · -- the rules in front have other names
      have hname : r.name ≠ r.name := by simpa using (List.mem_filter.1 (List.mem_of_find?_eq_some hr)).2
      exact absurd rfl hname
    · refine ⟨List.find?_some (p := (Rule.Matches · n)) hr, fun s hs hmatches => ?_⟩
      by_contra hname
      exact List.find?_eq_none.1 hnone s (List.mem_filter.2 ⟨hs, decide_eq_true hname⟩) hmatches
  · rintro ⟨hr, hother⟩
    refine .inr ⟨List.find?_eq_none.2 fun s hs hmatches => ?_, List.find?_cons_of_pos (p := (Rule.Matches · n)) hr⟩
    obtain ⟨hs, hname⟩ := List.mem_filter.1 hs
    exact of_decide_eq_true hname (hother s hs hmatches)

/-- The rule that is found stands in front of all others that match. -/
theorem first_of_match? (h : (addAll {} added).match? n = some r) :
    ∃ i, LastAt added i r ∧ ∀ j s, LastAt added j s → s.Matches n = true → i ≤ j := by
  obtain ⟨i, hi⟩ := mem_addAll.1 (mem_of_match? h)
  refine ⟨i, hi, fun j s hj hs => ?_⟩
  rw [match?_eq] at h
  obtain ⟨-, front, rest, hrules, hfront⟩ := List.find?_eq_some_iff_append.1 h
  have horder : (addAll {} added).rules.Pairwise _ := pairwise_addAll
  have hmem : s ∈ (addAll {} added).rules := mem_addAll.2 ⟨j, hj⟩
  rw [hrules] at horder hmem
  -- a rule in front of the one that is found does not match, and a rule behind it was added behind it
  rcases List.mem_append.1 hmem with hmem | hmem
  · exact absurd hs (by simpa using hfront s hmem)
  rcases List.mem_cons.1 hmem with rfl | hmem
  · exact le_of_eq (hi.index_unique hj rfl)
  · have hafter := (List.pairwise_cons.1 (List.pairwise_append.1 horder).2.1).1
    obtain ⟨i', j', hi', hj', hlt⟩ := hafter s hmem
    rw [hi.index_unique hi' rfl, hj.index_unique hj' rfl]
    exact hlt.le

/-- The rule for a name is the one whose last addition comes first. -/
theorem match?_addAll : (addAll {} added).match? n = some r ↔ r.Matches n = true ∧
    ∃ i, LastAt added i r ∧ ∀ j s, LastAt added j s → s.Matches n = true → i ≤ j := by
  constructor
  · exact fun h => ⟨matches_of_match? h, first_of_match? h⟩
  · rintro ⟨hr, i, hi, hle⟩
    have hmem : r ∈ (addAll {} added).rules := mem_addAll.2 ⟨i, hi⟩
    cases hs : (addAll {} added).match? n with
    | none => exact absurd hr (by simp [match?_eq_none.1 hs r hmem])
    | some s =>
      obtain ⟨j, hj, hle'⟩ := first_of_match? hs
      obtain rfl : i = j := Nat.le_antisymm (hle j s hj (matches_of_match? hs)) (hle' i r hi hr)
      rw [hi.rule_unique hj]

/-- Rules are added to an empty rulebook again and again, and it is used for look-ups in between. Then at any moment

* a use is answered by the rulebook as it is at that moment;
* the rules are those that were added last under their names, one of each name, in the order of these additions;
* a name is found if a rule was added under it, and then it has the rule that was added last; the size is the number
  of names;
* of the pattern rules that stand for a name the one is found whose last addition comes first, and none only if none
  stands for it; so a rule that is now added is found only if no rule of another name stands for the name. -/
theorem priority_by_last_addition (us : List Use) (k : Nat) :
    let b := (useAll {} (us.take k)).2
    let added := (us.take k).filterMap Use.added?
    (useAll {} us).1[k]? = us[k]?.map (fun u => (b.use u).1) ∧
    (∀ r, r ∈ b.rules ↔ ∃ i, LastAt added i r) ∧ b.names.Nodup ∧
    b.rules.Pairwise (fun r s => ∃ i j, LastAt added i r ∧ LastAt added j s ∧ i < j) ∧
    (∀ n, b.contains n = true ↔ ∃ r ∈ added, r.name = n) ∧
    (∀ n r, b.get? n = some r ↔ r.name = n ∧ ∃ i, LastAt added i r) ∧
    b.size = (added.map (·.name)).dedup.length ∧
    (∀ n r, b.match? n = some r ↔ r.Matches n = true ∧
      ∃ i, LastAt added i r ∧ ∀ j s, LastAt added j s → s.Matches n = true → i ≤ j) ∧
    (∀ n, b.match? n = none ↔ ∀ i r, LastAt added i r → r.Matches n = false) ∧
    ∀ r n, (b.add r).match? n = some r ↔
      r.Matches n = true ∧ ∀ i s, LastAt added i s → s.Matches n = true → s.name = r.name := by
  intro b added
  have hb : b = addAll {} added := useAll_snd {} (us.take k)
  refine ⟨getElem?_useAll {} us k, ?_⟩
  clear_value b
  subst hb
  refine ⟨fun r => mem_addAll, nodup_names_addAll, pairwise_addAll, fun n => contains_addAll, fun n r => get?_addAll,
    size_addAll, fun n r => match?_addAll, fun n => ?_, fun r n => ?_⟩
  · simp only [match?_eq_none, mem_addAll, forall_exists_index]
    exact forall_comm
  · simp only [match?_add_self, mem_addAll, forall_exists_index]
    exact and_congr_right' forall_comm

/-- The first of two pattern rules is defined again, and gives way to the other. -/
example :
    let first : Rule := { name := lit "%.o", pattern := true, after := lit ".o" }
    let second : Rule := { name := lit "a%", pattern := true, before := lit "a" }
    let again : Rule := { first with line := some 7 }
    (useAll {} [.add first, .add second, .find (lit "ab.o"), .add again, .find (lit "ab.o"), .list]).1 =
      [.done, .done, .rule first, .done, .rule second, .rules [second, again]] := by
  decide +kernel

end Buildfile.Rulebook
