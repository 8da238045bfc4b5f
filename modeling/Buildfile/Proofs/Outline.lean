import Buildfile.Description.Outline
import Mathlib.Data.List.Induction
import Mathlib.Data.Nat.Find
import Mathlib.Data.Prod.Lex
import Mathlib.Order.Bounds.Basic
/-!
# Facts about an outline

What a line says by its kind; how the commands and the heads that lie below a line follow from those below
the next; and what the variables are that a list of lines sets. The heads are listed under their places,
which go upwards in the order of lines and within a line, so the last head of a name has the greatest place.
-/

namespace Buildfile.Description

variable {ls : List Text} {l : Text} {i k p : Nat} {x : Name} {v value : Text}

/-! ## One line -/

theorem LineKind.head?_of_command (h : LineKind.of l = .command) : l.head? = some '\t' := by
  unfold LineKind.of at h
  split at h
  · cases h
  split at h
  · assumption
  · split at h <;> cases h

/-- The tab before a command is blank. -/
theorem trim_drop_of_tab (h : l.head? = some '\t') : Text.trim (l.drop 1) = l.trim := by
  cases l with
  | nil => cases h
  | cons c t =>
    obtain rfl : c = '\t' := by simpa using h
    have htab : isBlank '\t' = true := by decide
    simp [Text.trim, Text.trimStart, htab]

theorem Line.ofCommand_eq (h : l.head? = some '\t') :
    Line.ofCommand (l.drop 1) = .command (isSilent l) (commandText l) := by
  unfold Line.ofCommand commandText isSilent
  rw [trim_drop_of_tab h]
  cases l.trim with
  | nil => rfl
  | cons c t =>
    by_cases hc : c = '@'
    · subst hc
      rfl
    · simp [hc]

/-- What a line that is understood says, by its kind. -/
theorem Line.read_cases {a : Line} (h : Line.read l = .ok a) :
    (LineKind.of l = .skip ∧ a = .skip) ∨
    (LineKind.of l = .command ∧ a = .command (isSilent l) (commandText l)) ∨
    (LineKind.of l = .target ∧ a = .heading (headWords l) (tailWords l)) ∨
    ∃ x value, LineKind.of l = .variable ∧ assignment? l = some (x, value) ∧ a = .assignment x value := by
  unfold Line.read at h
  cases hk : LineKind.of l with
  | skip =>
    rw [hk] at h
    cases h
    exact .inl ⟨rfl, rfl⟩
  | command =>
    rw [hk] at h
    cases h
    exact .inr (.inl ⟨rfl, Line.ofCommand_eq (LineKind.head?_of_command hk)⟩)
  | target =>
    simp only [hk, Line.ofHeading] at h
    split at h
    · cases h
    · split at h <;> cases h
      exact .inr (.inr (.inl ⟨rfl, rfl⟩))
  | «variable» =>
    simp only [hk, Line.ofAssignment] at h
    split at h <;> cases h
    exact .inr (.inr (.inr ⟨_, _, rfl, by rw [assignment?, if_pos hk], rfl⟩))
  | invalid =>
    rw [hk] at h
    cases h

theorem assignment?_of_kind (h : LineKind.of l ≠ .variable) : assignment? l = none := if_neg h

theorem commandAt?_of_kind (hl : ls[k]? = some l) (h : LineKind.of l ≠ .command) : commandAt? ls k = none := by
  simp [commandAt?, hl, h]

theorem commandAt?_of_command (hl : ls[k]? = some l) (h : LineKind.of l = .command) : commandAt? ls k =
    some { text := expand (variablesOf (ls.take k)) (commandText l), silent := isSilent l, line := some (k + 1) } := by
  simp [commandAt?, hl, h]

/-! ## What is below a line -/

theorem drop_eq_cons (hl : ls[k]? = some l) : ls.drop k = l :: ls.drop (k + 1) := by
  obtain ⟨hk, rfl⟩ := List.getElem?_eq_some_iff.1 hl
  exact List.drop_eq_getElem_cons hk

theorem take_succ_eq (hl : ls[k]? = some l) : ls.take (k + 1) = ls.take k ++ [l] := by
  rw [List.take_add_one, hl]
  rfl

theorem commandsFrom_of_length_le (h : ls.length ≤ k) : commandsFrom ls k = [] := by
  simp [commandsFrom, List.drop_eq_nil_of_le h]

theorem commandsFrom_of_target (hl : ls[k]? = some l) (h : LineKind.of l = .target) : commandsFrom ls k = [] := by
  simp [commandsFrom, drop_eq_cons hl, h]

theorem commandsFrom_of_kind (hl : ls[k]? = some l) (h : LineKind.of l ≠ .target) :
    commandsFrom ls k = (commandAt? ls k).toList ++ commandsFrom ls (k + 1) := by
  simp only [commandsFrom, drop_eq_cons hl, List.takeWhile_cons, h, ne_eq, not_false_eq_true, decide_true, if_true,
    List.length_cons, List.range'_succ, List.filterMap_cons]
  cases commandAt? ls k <;> rfl

/-- The names in the head of line `i`, under their places. -/
def headsAt (ls : List Text) (i : Nat) : List ((Nat ×ₗ Nat) × Name) :=
  match ls[i]? with
  | some l => if LineKind.of l = .target then (headWords l).zipIdx.map fun a => (toLex (i, a.2), a.1) else []
  | none => []

/-- The names in the heads from line `k` on. -/
def headsFrom (ls : List Text) (k : Nat) : List ((Nat ×ₗ Nat) × Name) :=
  (List.range' k (ls.length - k)).flatMap (headsAt ls)

theorem headsAt_of_kind (hl : ls[k]? = some l) (h : LineKind.of l ≠ .target) : headsAt ls k = [] := by
  simp [headsAt, hl, h]

theorem headsAt_of_target (hl : ls[k]? = some l) (h : LineKind.of l = .target) :
    headsAt ls k = (headWords l).zipIdx.map fun a => (toLex (k, a.2), a.1) := by
  simp [headsAt, hl, h]

theorem headsFrom_of_length_le (h : ls.length ≤ k) : headsFrom ls k = [] := by
  simp [headsFrom, Nat.sub_eq_zero_of_le h]

theorem headsFrom_eq (hl : ls[k]? = some l) : headsFrom ls k = headsAt ls k ++ headsFrom ls (k + 1) := by
  have hk : ls.length - k = (ls.length - (k + 1)) + 1 := by
    have := (List.getElem?_eq_some_iff.1 hl).1
    omega
  rw [headsFrom, hk, List.range'_succ, List.flatMap_cons, headsFrom]

theorem mem_headsAt {a : Nat ×ₗ Nat} :
    (a, x) ∈ headsAt ls i ↔ (ofLex a).1 = i ∧ HeadAt ls x i (ofLex a).2 := by
  cases hl : ls[i]? with
  | none => simp [headsAt, HeadAt, hl]
  | some l =>
    by_cases hk : LineKind.of l = .target
    · simp only [headsAt_of_target hl hk, HeadAt, hl, hk, List.mem_map, Prod.exists, List.mem_zipIdx_iff_getElem?,
        Prod.mk.injEq, Option.some.injEq, exists_eq_left', true_and]
      constructor
      · rintro ⟨y, p, hp, rfl, rfl⟩
        exact ⟨rfl, hp⟩
      · rintro ⟨rfl, hp⟩
        exact ⟨x, _, hp, rfl, rfl⟩
    · simp [headsAt_of_kind hl hk, HeadAt, hl, hk]

theorem mem_headsFrom {a : Nat ×ₗ Nat} : (a, x) ∈ headsFrom ls 0 ↔ HeadAt ls x (ofLex a).1 (ofLex a).2 := by
  simp only [headsFrom, List.mem_flatMap, List.mem_range'_1, mem_headsAt]
  constructor
  · rintro ⟨i, -, rfl, h⟩
    exact h
  · intro h
    obtain ⟨l, hl, -⟩ := id h
    have hi := (List.getElem?_eq_some_iff.1 hl).1
    exact ⟨_, ⟨Nat.zero_le _, by omega⟩, rfl, h⟩

/-- The places of the names in the heads go upwards. -/
theorem pairwise_headsFrom : (headsFrom ls k).Pairwise (·.1 < ·.1) := by
  refine List.pairwise_flatMap.2 ⟨fun i _ => ?_, ?_⟩
  · cases hl : ls[i]? with
    | none => simp [headsAt, hl]
    | some l =>
      by_cases hk : LineKind.of l = .target
      · rw [headsAt_of_target hl hk, List.pairwise_map]
        have hlt : ((headWords l).zipIdx.map (·.2)).Pairwise (· < ·) := by
          rw [List.zipIdx_map_snd]
          exact List.pairwise_lt_range'
        refine (List.pairwise_map.1 hlt).imp fun h => ?_
        exact Prod.Lex.toLex_lt_toLex.2 (.inr ⟨rfl, h⟩)
      · simp [headsAt_of_kind hl hk]
  · have hrange : (List.range' k (ls.length - k)).Pairwise (· < ·) := List.pairwise_lt_range'
    refine hrange.imp fun {i j} hij a ha a' ha' => ?_
    obtain ⟨rfl, -⟩ := mem_headsAt.1 ha
    obtain ⟨rfl, -⟩ := mem_headsAt.1 ha'
    exact Prod.Lex.lt_iff.2 (.inl hij)

theorem isGreatest_headsFrom {a : Nat ×ₗ Nat} :
    IsGreatest {a | (a, x) ∈ headsFrom ls 0} a ↔ LastHeadAt ls x (ofLex a).1 (ofLex a).2 := by
  simp only [IsGreatest, upperBounds, Set.mem_ofPred_eq, mem_headsFrom, LastHeadAt]
  refine and_congr_right fun _ => ⟨fun h j q hj => ?_, fun h a' ha' => ?_⟩
  · exact Prod.Lex.le_iff.1 (h (a := toLex (j, q)) hj)
  · exact Prod.Lex.le_iff.2 (h _ _ ha')

theorem LastHeadAt.unique {j q : Nat} (h : LastHeadAt ls x i p) (h' : LastHeadAt ls x j q) : i = j ∧ p = q := by
  have heq : toLex (i, p) = toLex (j, q) :=
    (isGreatest_headsFrom.2 h : IsGreatest _ (toLex (i, p))).unique (isGreatest_headsFrom.2 h')
  exact Prod.mk.injEq .. ▸ toLex_inj.1 heq

/-! ## The variables -/

theorem variablesOf_concat : variablesOf (ls ++ [l]) = assign (variablesOf ls) l := by
  simp [variablesOf]

theorem assignedAt_concat : AssignedAt (ls ++ [l]) x i value ↔
    AssignedAt ls x i value ∨ i = ls.length ∧ assignment? l = some (x, value) := by
  unfold AssignedAt
  rw [List.getElem?_append]
  split
  · next hi => simp [Nat.ne_of_lt hi]
  · next hi =>
    have hnone : ls[i]? = none := List.getElem?_eq_none (Nat.le_of_not_lt hi)
    rw [hnone, List.getElem?_singleton]
    have hiff : i - ls.length = 0 ↔ i = ls.length := by omega
    by_cases he : i = ls.length <;> simp [hiff, he]

theorem AssignedAt.lt_length (h : AssignedAt ls x i value) : i < ls.length := by
  obtain ⟨l, hl, -⟩ := h
  exact (List.getElem?_eq_some_iff.1 hl).1

/-- A further line is the last that assigns to a variable, if it does. -/
theorem lastAssignedAt_concat : LastAssignedAt (ls ++ [l]) x i value ↔
    if (assignment? l).map (·.1) = some x then i = ls.length ∧ assignment? l = some (x, value)
    else LastAssignedAt ls x i value := by
  unfold LastAssignedAt
  simp only [assignedAt_concat]
  split
  · next hx =>
    obtain ⟨⟨y, w⟩, hw, rfl⟩ := Option.map_eq_some_iff.1 hx
    constructor
    · rintro ⟨h | h, hmax⟩
      · have := hmax _ w (.inr ⟨rfl, hw⟩)
        exact absurd h.lt_length (by omega)
      · exact h
    · rintro ⟨rfl, h⟩
      refine ⟨.inr ⟨rfl, h⟩, ?_⟩
      rintro j w (hj | ⟨rfl, -⟩)
      · exact Nat.le_of_lt hj.lt_length
      · exact Nat.le_refl _
  · next hx =>
    have hne : ∀ w, assignment? l ≠ some (x, w) := fun w hw => hx (by simp [hw])
    simp [hne]

/-- A variable has the value of its last assignment, in which the references are replaced by what was
assigned before. -/
theorem get?_variablesOf : (variablesOf ls).get? x = some v ↔
    ∃ i value, LastAssignedAt ls x i value ∧ v = expand (variablesOf (ls.take i)) value := by
  induction ls using List.reverseRecOn with
  | nil => simp [variablesOf, LastAssignedAt, AssignedAt]
  | append_singleton ls l ih =>
    have htake : ∀ {i value}, LastAssignedAt ls x i value → (ls ++ [l]).take i = ls.take i := fun h =>
      List.take_append_of_le_length (Nat.le_of_lt h.1.lt_length)
    have hold : (∃ i value, LastAssignedAt ls x i value ∧ v = expand (variablesOf ((ls ++ [l]).take i)) value) ↔
        (variablesOf ls).get? x = some v := by
      rw [ih]
      exact exists₂_congr fun i value => and_congr_right fun hlast => by rw [htake hlast]
    simp only [variablesOf_concat, lastAssignedAt_concat, assign]
    cases ha : assignment? l with
    | none => simpa using hold.symm
    | some a =>
      obtain ⟨y, w⟩ := a
      rw [Table.get?_set]
      by_cases hx : x = y
      · subst hx
        simp [eq_comm]
      · simpa [hx, Ne.symm hx] using hold.symm

theorem mem_keys_variablesOf : x ∈ (variablesOf ls).keys ↔ ∃ i value, AssignedAt ls x i value := by
  induction ls using List.reverseRecOn with
  | nil => simp [variablesOf, AssignedAt, Table.keys]
  | append_singleton ls l ih =>
    rw [Table.mem_keys_iff] at ih ⊢
    simp only [variablesOf_concat, assignedAt_concat, assign, exists_or, ← ih]
    cases ha : assignment? l with
    | none => simp
    | some a =>
      obtain ⟨y, w⟩ := a
      simp only [Table.get?_set]
      by_cases hx : x = y
      · simp [hx]
      · simp [hx, Ne.symm hx]

theorem exists_firstAssignedAt (h : x ∈ (variablesOf ls).keys) : ∃ i, FirstAssignedAt ls x i := by
  classical
  have hex := mem_keys_variablesOf.1 h
  exact ⟨Nat.find hex, Nat.find_spec hex, fun j w hj => Nat.find_min' hex ⟨w, hj⟩⟩

theorem FirstAssignedAt.concat (h : FirstAssignedAt ls x i) (l : Text) : FirstAssignedAt (ls ++ [l]) x i := by
  obtain ⟨⟨value, hv⟩, hmin⟩ := h
  refine ⟨⟨value, assignedAt_concat.2 (.inl hv)⟩, fun j w hj => ?_⟩
  rcases assignedAt_concat.1 hj with hj | ⟨rfl, -⟩
  · exact hmin j w hj
  · exact Nat.le_of_lt hv.lt_length

/-- The variables are in the order of their first assignments. -/
theorem pairwise_keys_variablesOf : (variablesOf ls).keys.Pairwise fun x y =>
    ∃ i j, FirstAssignedAt ls x i ∧ FirstAssignedAt ls y j ∧ i < j := by
  induction ls using List.reverseRecOn with
  | nil => exact .nil
  | append_singleton ls l ih =>
    have hold : (variablesOf ls).keys.Pairwise fun x y =>
        ∃ i j, FirstAssignedAt (ls ++ [l]) x i ∧ FirstAssignedAt (ls ++ [l]) y j ∧ i < j := by
      refine ih.imp ?_
      rintro x y ⟨i, j, hi, hj, hij⟩
      exact ⟨i, j, hi.concat l, hj.concat l, hij⟩
    rw [variablesOf_concat, assign]
    split
    · next y w ha =>
      by_cases hy : y ∈ (variablesOf ls).keys
      · rwa [Table.keys_set_of_mem _ hy]
      · rw [Table.keys_set_of_not_mem _ hy]
        refine List.pairwise_append.2 ⟨hold, List.pairwise_singleton _ _, fun x hx z hz => ?_⟩
        rw [List.mem_singleton] at hz
        subst hz
        obtain ⟨i, hi⟩ := exists_firstAssignedAt hx
        obtain ⟨⟨value, hv⟩, -⟩ := id hi
        refine ⟨i, ls.length, hi.concat l, ⟨⟨w, assignedAt_concat.2 (.inr ⟨rfl, ha⟩)⟩, fun j w' hj => ?_⟩, hv.lt_length⟩
        rcases assignedAt_concat.1 hj with hj | ⟨rfl, -⟩
        · exact absurd (mem_keys_variablesOf.2 ⟨j, w', hj⟩) hy
        · exact Nat.le_refl _
    · exact hold

end Buildfile.Description
