import Buildfile.Build.Ledger
import Mathlib.Logic.Relation
/-!
# The search through the waits

Admission asks whether the waits lead from a name back to one of its ancestors, and answers with a search that looks
at one name in every round. `search_exact` says that the search comes to an end and that its answer is right, whatever
cycles the table holds.

The answer is right because of what holds of the stack and of the names looked at from the first round to the last
(`Tracks`). That there is a last round rests on a count: a name's waits are put on the stack only when the name is
first looked at, so the waits that are still to be followed and the names on the stack become fewer in every round.
-/

namespace Buildfile.Build.Waits

open Relation

/-- `n` is recorded as waiting for `d`. -/
def Edge (w : Waits) (n d : Name) : Prop := d ∈ (w.get? n).getD []

theorem edge_of_get? {w : Waits} {n d : Name} {ds : List Name} (h : w.get? n = some ds) (hd : d ∈ ds) :
    w.Edge n d := by
  simpa [Edge, h] using hd

variable {w : Waits} {goals : List Name} {start : Name} {s s' : Search} {b : Bool}

/-! ## What a round does -/

theorem round_eq_inr (h : w.round goals s = .inr s') : ∃ n rest, s.stack = n :: rest ∧ n ∉ goals ∧
    (n ∈ s.seen ∧ s' = { s with stack := rest } ∨
      n ∉ s.seen ∧ s' = { stack := ((w.get? n).getD []).reverse ++ rest, seen := n :: s.seen }) := by
  unfold round at h
  split at h
  · cases h
  next n rest hstack =>
  split at h
  · cases h
  next hgoal =>
  refine ⟨n, rest, hstack, hgoal, ?_⟩
  split at h
  · next hseen =>
    cases h
    exact .inl ⟨hseen, rfl⟩
  · next hseen =>
    cases h
    exact .inr ⟨hseen, rfl⟩

theorem round_eq_inl (h : w.round goals s = .inl b) :
    s.stack = [] ∧ b = false ∨ ∃ n rest, s.stack = n :: rest ∧ n ∈ goals ∧ b = true := by
  unfold round at h
  split at h
  · next hstack =>
    cases h
    exact .inl ⟨hstack, rfl⟩
  next n rest hstack =>
  split at h
  · next hgoal =>
    cases h
    exact .inr ⟨n, rest, hstack, hgoal, rfl⟩
  · split at h <;> cases h

/-- A round forgets no name: one that leaves the stack has been looked at. -/
theorem mem_of_round (h : w.round goals s = .inr s') {d : Name} (hd : d ∈ s.seen ∨ d ∈ s.stack) :
    d ∈ s'.seen ∨ d ∈ s'.stack := by
  obtain ⟨n, rest, hstack, -, ⟨hseen, rfl⟩ | ⟨-, rfl⟩⟩ := round_eq_inr h
  · rw [hstack, List.mem_cons] at hd
    rcases hd with hd | rfl | hd
    · exact .inl hd
    · exact .inl hseen
    · exact .inr hd
  · rw [hstack, List.mem_cons] at hd
    rcases hd with hd | rfl | hd
    · exact .inl (List.mem_cons_of_mem _ hd)
    · exact .inl List.mem_cons_self
    · exact .inr (List.mem_append_right _ hd)

/-! ## The answer is right -/

/-- What holds wherever a search for the goals stands that began at `start`. -/
structure Tracks (w : Waits) (goals : List Name) (start : Name) (s : Search) : Prop where
  begun : start ∈ s.seen ∨ start ∈ s.stack
  stack : ∀ n ∈ s.stack, ReflTransGen w.Edge start n
  seen : ∀ n ∈ s.seen, n ∉ goals
  edges : ∀ n ∈ s.seen, ∀ d, w.Edge n d → d ∈ s.seen ∨ d ∈ s.stack

namespace Tracks

theorem new (w : Waits) (goals : List Name) (start : Name) : Tracks w goals start { stack := [start] } where
  begun := .inr (List.mem_singleton_self start)
  stack n hn := by
    rw [List.mem_singleton] at hn
    subst hn
    exact .refl
  seen := nofun
  edges := nofun

theorem next (h : Tracks w goals start s) {n : Name} {rest : List Name} (hstack : s.stack = n :: rest) :
    ReflTransGen w.Edge start n ∧ ∀ a ∈ rest, ReflTransGen w.Edge start a := by
  have hall := h.stack
  rw [hstack] at hall
  exact List.forall_mem_cons.1 hall

theorem round (h : Tracks w goals start s) (hr : w.round goals s = .inr s') : Tracks w goals start s' := by
  have hkept := @mem_of_round w goals s s' hr
  obtain ⟨n, rest, hstack, hgoal, hcase⟩ := round_eq_inr hr
  obtain ⟨hn, hrest⟩ := h.next hstack
  rcases hcase with ⟨-, rfl⟩ | ⟨-, rfl⟩
  · exact ⟨hkept h.begun, hrest, h.seen, fun a ha d hd => hkept (h.edges a ha d hd)⟩
  · refine ⟨hkept h.begun, ?_, ?_, ?_⟩
    · intro a ha
      rcases List.mem_append.1 ha with ha | ha
      · exact hn.tail (List.mem_reverse.1 ha)
      · exact hrest a ha
    · intro a ha
      rcases List.mem_cons.1 ha with rfl | ha
      · exact hgoal
      · exact h.seen a ha
    · intro a ha d hd
      rcases List.mem_cons.1 ha with rfl | ha
      · exact .inr (List.mem_append_left _ (List.mem_reverse.2 hd))
      · exact hkept (h.edges a ha d hd)

/-- Once the stack is empty, the names looked at are all that the waits lead to. -/
theorem mem_of_path (h : Tracks w goals start s) (hstack : s.stack = []) {g : Name}
    (hp : ReflTransGen w.Edge start g) : g ∈ s.seen := by
  induction hp with
  | refl => simpa [hstack] using h.begun
  | tail _ hd ih => simpa [hstack] using h.edges _ ih _ hd

theorem answer (h : Tracks w goals start s) (hr : w.round goals s = .inl b) :
    b = true ↔ ∃ g ∈ goals, ReflTransGen w.Edge start g := by
  rcases round_eq_inl hr with ⟨hstack, rfl⟩ | ⟨n, rest, hstack, hgoal, rfl⟩
  · constructor
    · intro hfalse
      cases hfalse
    · rintro ⟨g, hg, hp⟩
      exact absurd hg (h.seen g (h.mem_of_path hstack hp))
  · exact ⟨fun _ => ⟨n, hgoal, (h.next hstack).1⟩, fun _ => rfl⟩

theorem search {rounds : Nat} (h : Tracks w goals start s) (hs : w.search goals rounds s = some b) :
    b = true ↔ ∃ g ∈ goals, ReflTransGen w.Edge start g := by
  induction rounds generalizing s with
  | zero => cases hs
  | succ rounds ih =>
    rw [Waits.search] at hs
    cases hr : w.round goals s with
    | inl b' =>
      rw [hr] at hs
      cases hs
      exact h.answer hr
    | inr s' =>
      rw [hr] at hs
      exact ih (h.round hr) hs

end Tracks

/-! ## There is an answer -/

/-- The number of waits of the names that were not looked at yet. -/
def pending (w : Waits) (seen : List Name) : Nat :=
  ((w.entries.filter (·.1 ∉ seen)).flatMap (·.2)).length

theorem pending_nil (w : Waits) : w.pending [] = w.size := by
  rw [pending, List.filter_eq_self.2 (by simp), size]

/-- Looking at a name for the first time takes its waits off the pending ones. -/
theorem pending_cons_add_le {w : Waits} {n : Name} {seen : List Name} (hn : n ∉ seen) :
    w.pending (n :: seen) + ((w.get? n).getD []).length ≤ w.pending seen := by
  obtain ⟨es⟩ := w
  induction es with
  | nil => simp [pending, Table.get?]
  | cons e es ih =>
    simp only [pending, Table.get?] at ih ⊢
    by_cases he : e.1 = n
    · -- the entry that look-up finds; later ones under the same name only help
      have hrest : ((es.filter (·.1 ∉ n :: seen)).flatMap (·.2)).length ≤
          ((es.filter (·.1 ∉ seen)).flatMap (·.2)).length := by omega
      simp [he, hn] at hrest ⊢
      omega
    · by_cases hs : e.1 ∈ seen
      · simpa [he, hs] using ih
      · simp only [List.filter_cons, List.find?_cons, List.mem_cons, he, hs, decide_false, decide_true,
          not_false_eq_true, or_self, if_true, List.flatMap_cons, List.length_append] at ih ⊢
        omega

/-- The names on the stack, and those that can still be put there. -/
def effort (w : Waits) (s : Search) : Nat := w.pending s.seen + s.stack.length

theorem effort_lt_of_round (h : w.round goals s = .inr s') : w.effort s' < w.effort s := by
  obtain ⟨n, rest, hstack, -, ⟨-, rfl⟩ | ⟨hseen, rfl⟩⟩ := round_eq_inr h
  · simp [effort, hstack]
  · have hpending := pending_cons_add_le (w := w) hseen
    simp only [effort, hstack, List.length_append, List.length_reverse, List.length_cons]
    omega

theorem exists_search_eq_some {rounds : Nat} (h : w.effort s < rounds) :
    ∃ b, w.search goals rounds s = some b := by
  induction rounds generalizing s with
  | zero => omega
  | succ rounds ih =>
    rw [search]
    cases hr : w.round goals s with
    | inl b => exact ⟨b, rfl⟩
    | inr s' =>
      have hless := effort_lt_of_round hr
      exact ih (by omega)

theorem search_ends (w : Waits) (start : Name) (goals : List Name) {rounds : Nat} (h : w.size + 1 < rounds) :
    ∃ b, w.search goals rounds { stack := [start] } = some b := by
  have hnew : w.effort { stack := [start] } = w.size + 1 := by simp [effort, pending_nil]
  exact exists_search_eq_some (by omega)

/-! ## The search as a whole -/

theorem search_reaches (w : Waits) (start : Name) (goals : List Name) :
    w.search goals (w.size + 2) { stack := [start] } = some (w.reaches start goals) := by
  obtain ⟨b, hb⟩ := search_ends w start goals (Nat.lt_succ_self _)
  rw [reaches, hb]
  rfl

/-- The search comes upon a goal exactly if a path of waits leads to one. -/
theorem reaches_iff (w : Waits) (start : Name) (goals : List Name) :
    w.reaches start goals = true ↔ ∃ g ∈ goals, ReflTransGen w.Edge start g :=
  (Tracks.new w goals start).search (search_reaches w start goals)

/-- Whatever the table of waits, the start and the goals: the search ends within two rounds more than there are waits
in the table, and after whatever number of rounds one looks at it, it has not ended or has given the same answer. That
is yes exactly if some goal is the start or comes after it on a path of one or more waits. -/
theorem search_exact (w : Waits) (start : Name) (goals : List Name) :
    (∀ more, w.search goals (w.size + 2 + more) { stack := [start] } = some (w.reaches start goals)) ∧
    (∀ rounds, w.search goals rounds { stack := [start] } = none ∨
      w.search goals rounds { stack := [start] } = some (w.reaches start goals)) ∧
    (w.reaches start goals = true ↔ ∃ g ∈ goals, g = start ∨ TransGen w.Edge start g) := by
  have hsame : ∀ rounds b, w.search goals rounds { stack := [start] } = some b → b = w.reaches start goals := by
    intro rounds b h
    rw [Bool.eq_iff_iff, reaches_iff]
    exact (Tracks.new w goals start).search h
  refine ⟨?_, ?_, ?_⟩
  · intro more
    have hless : w.size + 1 < w.size + 2 + more := by omega
    obtain ⟨b, hb⟩ := search_ends w start goals hless
    rw [hb, hsame _ b hb]
  · intro rounds
    cases h : w.search goals rounds { stack := [start] } with
    | none => exact .inl rfl
    | some b =>
      rw [hsame rounds b h]
      exact .inr rfl
  · simp only [reaches_iff, reflTransGen_iff_eq_or_transGen]

/-- A name that waits for itself, and one recorded twice as waited for. -/
example : let w : Waits := ⟨[(lit "a", [lit "b", lit "a", lit "b"]), (lit "b", [lit "a", lit "c"])]⟩
    w.reaches (lit "a") [lit "c"] = true ∧ w.reaches (lit "a") [lit "d"] = false := by
  decide +kernel

end Buildfile.Build.Waits
