import Buildfile.Rule
import Mathlib.Data.List.Induction
import Mathlib.Order.Bounds.Basic
/-!
# Rules that are defined again

Rules are added one after the other. Of the rules of one name the last one stays, in the place of its own
addition (`LastAt`): so the rules that are left are in the order of the last additions of their names. Where
each rule is added under a key that is greater than the keys before it, these are the greatest keys.
-/

namespace Buildfile.Rulebook

/-! ## Last additions -/

section LastAt
variable {b : Rulebook} {added : List Rule} {i j : Nat} {r s : Rule} {x : Name}

/-- Rule `r` is added in place `i`, and no rule of its name is added behind it. -/
structure LastAt (added : List Rule) (i : Nat) (r : Rule) : Prop where
  found : added[i]? = some r
  last (j : Nat) (s : Rule) : added[j]? = some s → s.name = r.name → j ≤ i

theorem LastAt.lt_length (h : LastAt added i r) : i < added.length := (List.getElem?_eq_some_iff.1 h.found).1

theorem LastAt.index_unique (h : LastAt added i r) (h' : LastAt added j s) (hn : r.name = s.name) : i = j :=
  Nat.le_antisymm (h'.last i r h.found hn) (h.last j s h'.found hn.symm)

theorem LastAt.rule_unique (h : LastAt added i r) (h' : LastAt added i s) : r = s :=
  Option.some.inj (h.found.symm.trans h'.found)

/-- A rule at the end takes the place of all rules of its name. -/
theorem lastAt_concat : LastAt (added ++ [s]) i r ↔
    r = s ∧ i = added.length ∨ r.name ≠ s.name ∧ LastAt added i r := by
  have hend : (added ++ [s])[added.length]? = some s := List.getElem?_concat_length
  have hle : ∀ {j t}, (added ++ [s])[j]? = some t → j ≤ added.length := fun ht => by
    have hlt := (List.getElem?_eq_some_iff.1 ht).1
    rw [List.length_append, List.length_singleton] at hlt
    omega
  constructor
  · rintro ⟨hr, hlast⟩
    rcases Nat.lt_or_eq_of_le (hle hr) with hi | rfl
    -- in front of the end, the rule has another name than the one at the end, which would be behind it
    · rw [List.getElem?_append_left hi] at hr
      refine .inr ⟨fun hn => absurd (hlast _ _ hend hn.symm) (Nat.not_le_of_lt hi), hr, fun j t ht => hlast j t ?_⟩
      rwa [List.getElem?_append_left (List.getElem?_eq_some_iff.1 ht).1]
    · exact .inl ⟨Option.some.inj (hr.symm.trans hend), rfl⟩
  · rintro (⟨rfl, rfl⟩ | ⟨hn, h⟩)
    · exact ⟨hend, fun j t ht _ => hle ht⟩
    · refine ⟨by rw [List.getElem?_append_left h.lt_length, h.found], fun j t ht hname => ?_⟩
      rcases Nat.lt_or_eq_of_le (hle ht) with hj | rfl
      · exact h.last j t (List.getElem?_append_left hj ▸ ht) hname
      · exact absurd (Option.some.inj (hend.symm.trans ht) ▸ hname.symm) hn

/-- A name that was added was added last in some place. -/
theorem exists_lastAt (h : r ∈ added) : ∃ i s, LastAt added i s ∧ s.name = r.name := by
  induction added using List.reverseRecOn with
  | nil => cases h
  | append_singleton added t ih =>
    by_cases hn : r.name = t.name
    · exact ⟨_, t, lastAt_concat.2 (.inl ⟨rfl, rfl⟩), hn.symm⟩
    · have hr : r ∈ added := (List.mem_append.1 h).resolve_right fun ht => hn (by rw [List.mem_singleton.1 ht])
      obtain ⟨i, s, hs, hname⟩ := ih hr
      exact ⟨i, s, lastAt_concat.2 (.inr ⟨by rwa [hname], hs⟩), hname⟩

theorem addAll_concat (b : Rulebook) : b.addAll (added ++ [s]) = (b.addAll added).add s := by
  simp [addAll]

/-- The rules that are left are those that were added last under their names. -/
theorem mem_addAll : r ∈ (addAll {} added).rules ↔ ∃ i, LastAt added i r := by
  induction added using List.reverseRecOn with
  | nil =>
    refine iff_of_false List.not_mem_nil ?_
    rintro ⟨i, h⟩
    exact Nat.not_lt_zero i h.lt_length
  | append_singleton added s ih => simp [addAll_concat, mem_rules_add, lastAt_concat, ih, exists_or]

/-- The rules that are left are in the order in which they were added. -/
theorem pairwise_addAll :
    (addAll {} added).rules.Pairwise fun r s => ∃ i j, LastAt added i r ∧ LastAt added j s ∧ i < j := by
  induction added using List.reverseRecOn with
  | nil => exact .nil
  | append_singleton added s ih =>
    rw [addAll_concat, add]
    refine List.pairwise_append.2 ⟨?_, List.pairwise_singleton _ _, fun r hr t ht => ?_⟩
    · refine (ih.filter _).imp_of_mem ?_
      rintro r t hr ht ⟨i, j, hi, hj, hlt⟩
      have hr : r.name ≠ s.name := by simpa using (List.mem_filter.1 hr).2
      have ht : t.name ≠ s.name := by simpa using (List.mem_filter.1 ht).2
      exact ⟨i, j, lastAt_concat.2 (.inr ⟨hr, hi⟩), lastAt_concat.2 (.inr ⟨ht, hj⟩), hlt⟩
    · obtain rfl := List.mem_singleton.1 ht
      obtain ⟨hr, hn⟩ := List.mem_filter.1 hr
      obtain ⟨i, hi⟩ := mem_addAll.1 hr
      have hn : r.name ≠ t.name := by simpa using hn
      exact ⟨i, _, lastAt_concat.2 (.inr ⟨hn, hi⟩), lastAt_concat.2 (.inl ⟨rfl, rfl⟩), hi.lt_length⟩

theorem nodup_names_addAll : (addAll {} added).names.Nodup := by
  refine List.pairwise_map.2 (pairwise_addAll.imp ?_)
  rintro r s ⟨i, j, hi, hj, hlt⟩ hn
  exact hlt.ne (hi.index_unique hj hn)

theorem contains_iff : b.contains x = true ↔ ∃ r, b.get? x = some r := by
  rw [contains, List.any_eq_true, get?, ← Option.isSome_iff_exists, List.find?_isSome]

theorem get?_addAll : (addAll {} added).get? x = some r ↔ r.name = x ∧ ∃ i, LastAt added i r := by
  rw [get?_eq_some nodup_names_addAll, mem_addAll, and_comm]

end LastAt

/-! ## Rules under growing keys -/

section Entries
variable {κ : Type} [LinearOrder κ] {es : List (κ × Name)} {rule : κ → Name → Rule} {x : Name} {k : κ} {r : Rule}
  {i : Nat}

/-- The rulebook with the rules of these keys and names added in order. -/
def ofEntries (rule : κ → Name → Rule) (es : List (κ × Name)) : Rulebook :=
  ({} : Rulebook).addAll (es.map fun e => rule e.1 e.2)

theorem lt_iff_of_pairwise (h : es.Pairwise (·.1 < ·.1)) {j : Nat} {e e' : κ × Name} (hi : es[i]? = some e)
    (hj : es[j]? = some e') : e.1 < e'.1 ↔ i < j := by
  obtain ⟨hi', rfl⟩ := List.getElem?_eq_some_iff.1 hi
  obtain ⟨hj', rfl⟩ := List.getElem?_eq_some_iff.1 hj
  have hlt := List.pairwise_iff_getElem.1 h
  rcases Nat.lt_trichotomy i j with hij | rfl | hji
  · exact iff_of_true (hlt i j hi' hj' hij) hij
  · exact iff_of_false (lt_irrefl _) (Nat.lt_irrefl _)
  · exact iff_of_false (hlt j i hj' hi' hji).not_gt (Nat.not_lt_of_lt hji)

/-- The last addition of a name is the one under the greatest key. -/
theorem lastAt_entries (hname : ∀ k x, (rule k x).name = x) (h : es.Pairwise (·.1 < ·.1)) :
    LastAt (es.map fun e => rule e.1 e.2) i r ↔
      ∃ k, es[i]? = some (k, r.name) ∧ IsGreatest {k | (k, r.name) ∈ es} k ∧ r = rule k r.name := by
  have hget : ∀ {j : Nat} {s : Rule}, (es.map fun e => rule e.1 e.2)[j]? = some s ↔
      ∃ k x, es[j]? = some (k, x) ∧ rule k x = s := by
    simp
  constructor
  · rintro ⟨hr, hlast⟩
    obtain ⟨k, x, he, rfl⟩ := hget.1 hr
    rw [hname]
    refine ⟨k, he, ⟨List.mem_of_getElem? he, fun k' hk' => ?_⟩, rfl⟩
    obtain ⟨j, hj⟩ := List.mem_iff_getElem?.1 hk'
    have hji : j ≤ i := hlast j _ (hget.2 ⟨k', x, hj, rfl⟩) (by rw [hname, hname])
    exact le_of_not_gt fun hlt => Nat.not_lt_of_le hji ((lt_iff_of_pairwise h he hj).1 hlt)
  · rintro ⟨k, he, hk, hr⟩
    refine ⟨hget.2 ⟨k, r.name, he, hr.symm⟩, fun j s hs hx => ?_⟩
    obtain ⟨k', x, hj, rfl⟩ := hget.1 hs
    rw [hname] at hx
    have hle : k' ≤ k := hk.2 (hx ▸ List.mem_of_getElem? hj)
    exact Nat.le_of_not_lt fun hlt => not_lt_of_ge hle ((lt_iff_of_pairwise h he hj).2 hlt)

theorem exists_isGreatest (h : es.Pairwise (·.1 < ·.1)) (hk : (k, x) ∈ es) :
    ∃ k, IsGreatest {k | (k, x) ∈ es} k := by
  let rule : κ → Name → Rule := fun _ name => { name }
  have hmem : rule k x ∈ es.map fun e => rule e.1 e.2 := List.mem_map.2 ⟨_, hk, rfl⟩
  obtain ⟨i, r, hr, rfl⟩ := exists_lastAt hmem
  obtain ⟨k', -, hk', -⟩ := (lastAt_entries (fun _ _ => rfl) h).1 hr
  exact ⟨k', hk'⟩

/-- The rule of a name is the one that was added last. -/
theorem get?_ofEntries (hname : ∀ k x, (rule k x).name = x) (h : es.Pairwise (·.1 < ·.1)) :
    (ofEntries rule es).get? x = some r ↔ ∃ k, IsGreatest {k | (k, x) ∈ es} k ∧ r = rule k x := by
  simp only [ofEntries, get?_addAll, lastAt_entries hname h]
  constructor
  · rintro ⟨rfl, i, k, -, hk, hr⟩
    exact ⟨k, hk, hr⟩
  · rintro ⟨k, hk, rfl⟩
    obtain ⟨i, hi⟩ := List.mem_iff_getElem?.1 hk.1
    rw [hname]
    exact ⟨rfl, i, k, hi, hk, rfl⟩

/-- The rules that are left are in the order of their last additions. -/
theorem pairwise_ofEntries (hname : ∀ k x, (rule k x).name = x) (h : es.Pairwise (·.1 < ·.1)) :
    (ofEntries rule es).rules.Pairwise fun r r' => ∃ k k', IsGreatest {k | (k, r.name) ∈ es} k ∧
      IsGreatest {k | (k, r'.name) ∈ es} k' ∧ k < k' := by
  refine pairwise_addAll.imp ?_
  rintro r r' ⟨i, j, hi, hj, hlt⟩
  obtain ⟨k, he, hk, -⟩ := (lastAt_entries hname h).1 hi
  obtain ⟨k', he', hk', -⟩ := (lastAt_entries hname h).1 hj
  exact ⟨k, k', hk, hk', (lt_iff_of_pairwise h he he').2 hlt⟩

end Entries

end Buildfile.Rulebook
