import Buildfile.Proofs.Step
import Buildfile.Proofs.Waits
import Mathlib.Data.List.Forall2
import Mathlib.Data.List.Induction
/-!
# The ledger and the calls fit together

`Coherent` ties the ledger of a machine to its calls. A name is being built exactly while one call
owns it; the waits are those of the owners between recording and forgetting them; and every call
that has not returned was started by an owner that still waits for it. `reachable_coherent` says
that this holds in every reachable machine, whatever the site does.

The ledger and the calls are all that matters here, so the invariant does not mention the machine.
-/

namespace Buildfile.Build

/-- Whether a call in this phase owns its name. -/
def Phase.owns : Phase → Bool
  | requested | joined | returned _ => false
  | _ => true

/-- The names that a call in this phase has recorded as waited for. -/
def Phase.awaited? : Phase → Option (List Name)
  | recorded p | waiting p _ | gathered p _ => some p.dependencies
  | _ => none

/-- The calls that a call in this phase waits for as those of its dependencies. -/
def Phase.children : Phase → List CallId
  | waiting _ ids => ids
  | _ => []

/-- Whether a call in this phase waits for the calls of its dependencies. -/
def Phase.isWaiting : Phase → Bool
  | waiting _ _ => true
  | _ => false

theorem Phase.result?_of_owns {p : Phase} (h : p.owns = true) : p.result? = none := by
  cases p <;> simp_all [owns, result?]

theorem Phase.owns_of_awaited? {p : Phase} {ds : List Name} (h : p.awaited? = some ds) : p.owns = true := by
  cases p <;> simp_all [owns, awaited?]

/-! ## Parents and children -/

/-- Calls are started by owners that wait for them. -/
structure Family (cs : List Call) : Prop where
  /-- A call that has not returned was started by an owner that waits for it. -/
  parent {j : CallId} {c : Call} {as : List Name} {a : Name} : cs[j]? = some c → c.phase.result? = none →
    c.ancestors = as ++ [a] →
    ∃ (i : CallId) (q : Call) (p : Plan) (ids : List CallId), cs[i]? = some q ∧ q.name = a ∧
      q.ancestors = as ∧ q.phase = .waiting p ids ∧ j ∈ ids
  /-- The calls that an owner waits for are those of its dependencies. -/
  children {i : CallId} {q : Call} {p : Plan} {ids : List CallId} : cs[i]? = some q →
    q.phase = .waiting p ids →
    List.Forall₂ (fun j d => ∃ c : Call, cs[j]? = some c ∧ c.name = d ∧ c.ancestors = q.ancestors ++ [q.name])
      ids p.dependencies

/-- The calls with call `i` in a new phase. -/
abbrev enterAt (cs : List Call) (i : CallId) (p : Phase) : List Call :=
  cs.modify i fun c => { c with phase := p }

variable {cs : List Call} {i : CallId} {c : Call} {p : Phase}

theorem enterAt_self (hc : cs[i]? = some c) (p : Phase) :
    (enterAt cs i p)[i]? = some { c with phase := p } := by
  simp [hc]

theorem enterAt_other (cs : List Call) {j : CallId} (h : j ≠ i) (p : Phase) :
    (enterAt cs i p)[j]? = cs[j]? := by
  simp [List.getElem?_modify_ne, h.symm]

/-- Only the call that moves is another afterwards. -/
theorem exists_enterAt_eq (hc : cs[i]? = some c) (p : Phase) :
    ∃ l₁ l₂, cs = l₁ ++ c :: l₂ ∧ enterAt cs i p = l₁ ++ { c with phase := p } :: l₂ := by
  obtain ⟨hi, hci⟩ := List.getElem?_eq_some_iff.1 hc
  obtain ⟨l₁, c', l₂, hl, hlen, hm⟩ := List.exists_of_modify (fun c : Call => { c with phase := p }) hi
  obtain rfl : c' = c := by
    subst hl hlen
    simpa using hci
  exact ⟨l₁, l₂, hl, hm⟩

/-- A call after one of them has moved: the one that moved, or another as it was. -/
theorem of_getElem?_enterAt {j : CallId} {c' : Call} (hc : cs[i]? = some c)
    (h : (enterAt cs i p)[j]? = some c') :
    (j = i ∧ c' = { c with phase := p }) ∨ (j ≠ i ∧ cs[j]? = some c') := by
  by_cases hj : j = i
  · subst hj
    rw [enterAt_self hc, Option.some.injEq] at h
    exact .inl ⟨rfl, h.symm⟩
  · rw [enterAt_other cs hj] at h
    exact .inr ⟨hj, h⟩

/-- Calls that are added leave the others at their places. -/
theorem getElem?_append_of_eq_some (hc : cs[i]? = some c) (ds : List Call) : (cs ++ ds)[i]? = some c := by
  rw [List.getElem?_append_left (List.getElem?_eq_some_iff.1 hc).1, hc]

/-- The call that `c` starts for its dependency `d`. -/
def Call.child (c : Call) (d : Name) : Call :=
  { name := d, ancestors := c.ancestors ++ [c.name], phase := .requested }

theorem Call.phase_of_mem_children {ds : List Name} {c' : Call} (h : c' ∈ ds.map c.child) :
    c'.phase = .requested := by
  obtain ⟨d, -, rfl⟩ := List.mem_map.1 h
  rfl

/-- The calls that were started for dependencies wait for their admission. -/
theorem getElem?_spawn (hi : i < cs.length) (ds : List Name) (p : Phase) :
    List.Forall₂ (fun j d => (enterAt (cs ++ ds.map c.child) i p)[j]? = some (c.child d))
      (List.range' cs.length ds.length) ds := by
  refine List.forall₂_iff_get.2 ⟨List.length_range', fun n h₁ h₂ => ?_⟩
  have hne : cs.length + n ≠ i := Nat.ne_of_gt (Nat.lt_of_lt_of_le hi (Nat.le_add_right _ _))
  simp only [List.get_eq_getElem, List.getElem_range', Nat.one_mul]
  rw [enterAt_other _ hne, List.getElem?_append_right (Nat.le_add_right _ _), Nat.add_sub_cancel_left,
    List.getElem?_map, List.getElem?_eq_getElem h₂, Option.map_some]

/-- A call after some were started: one that was there, or a new one. -/
theorem of_getElem?_append_map {α : Type} {f : α → Call} {ds : List α} {j : Nat} {c' : Call}
    (h : (cs ++ ds.map f)[j]? = some c') :
    cs[j]? = some c' ∨ ∃ d, cs.length ≤ j ∧ j < cs.length + ds.length ∧ c' = f d := by
  rw [List.getElem?_append] at h
  split at h
  · exact .inl h
  · next hlt =>
    rw [List.getElem?_map, Option.map_eq_some_iff] at h
    obtain ⟨d, hd, rfl⟩ := h
    have hjd : j - cs.length < ds.length := (List.getElem?_eq_some_iff.1 hd).1
    exact .inr ⟨d, by omega, by omega, rfl⟩

/-- Calls keep their places, names and ancestors. -/
def Continues (cs cs' : List Call) : Prop :=
  ∀ (j : CallId) (c : Call), cs[j]? = some c → ∃ c' : Call, cs'[j]? = some c' ∧ c'.name = c.name ∧
    c'.ancestors = c.ancestors

theorem continues_enterAt (hc : cs[i]? = some c) (p : Phase) : Continues cs (enterAt cs i p) := by
  intro j c' hj
  by_cases hji : j = i
  · subst hji
    rw [hc, Option.some.injEq] at hj
    subst hj
    exact ⟨_, enterAt_self hc p, rfl, rfl⟩
  · exact ⟨c', by rw [enterAt_other cs hji, hj], rfl, rfl⟩

theorem continues_append (cs ds : List Call) : Continues cs (cs ++ ds) := by
  intro j c hj
  exact ⟨c, getElem?_append_of_eq_some hj ds, rfl, rfl⟩

theorem Continues.trans {cs' cs'' : List Call} (h : Continues cs cs') (h' : Continues cs' cs'') :
    Continues cs cs'' := by
  intro j c hj
  obtain ⟨c', hc', hn, ha⟩ := h j c hj
  obtain ⟨c'', hc'', hn', ha'⟩ := h' j c' hc'
  exact ⟨c'', hc'', hn'.trans hn, ha'.trans ha⟩

theorem Continues.children {cs' : List Call} (h : Continues cs cs') {ids : List CallId} {ds as : List Name}
    (hch : List.Forall₂ (fun j d => ∃ c : Call, cs[j]? = some c ∧ c.name = d ∧ c.ancestors = as) ids ds) :
    List.Forall₂ (fun j d => ∃ c : Call, cs'[j]? = some c ∧ c.name = d ∧ c.ancestors = as) ids ds := by
  refine hch.imp fun j d => ?_
  rintro ⟨c, hc, rfl, rfl⟩
  exact h j c hc

namespace Family

/-- Each call that an owner waits for asks for one of its dependencies. -/
theorem child (h : Family cs) {q : Call} {pl : Plan} {ids : List CallId} (hq : cs[i]? = some q)
    (hp : q.phase = .waiting pl ids) {j : CallId} (hj : j ∈ ids) :
    ∃ c, cs[j]? = some c ∧ c.name ∈ pl.dependencies ∧ c.ancestors = q.ancestors ++ [q.name] := by
  obtain ⟨k, hk, rfl⟩ := List.getElem_of_mem hj
  have hch := h.children hq hp
  have hk' : k < pl.dependencies.length := hch.length_eq ▸ hk
  obtain ⟨c, hc, hd, ha⟩ := hch.get hk hk'
  simp only [List.get_eq_getElem] at hc hd
  exact ⟨c, hc, hd ▸ List.getElem_mem hk', ha⟩

/-- A call may enter any phase but waiting for children, and leave that one once they returned. -/
theorem enter (h : Family cs) (hc : cs[i]? = some c) (hr : c.phase.result? = none)
    (hdone : ∀ j ∈ c.phase.children, ∀ c', cs[j]? = some c' → c'.phase.result? ≠ none)
    (hp : p.isWaiting = false) : Family (enterAt cs i p) where
  parent {j c' as a} hj hr' ha := by
    -- the call in its old phase had not returned either, and its parent cannot be the one that moved
    have hold : ∃ c₀, cs[j]? = some c₀ ∧ c₀.phase.result? = none ∧ c₀.ancestors = as ++ [a] := by
      rcases of_getElem?_enterAt hc hj with ⟨rfl, rfl⟩ | ⟨-, hj⟩
      · exact ⟨c, hc, hr, ha⟩
      · exact ⟨c', hj, hr', ha⟩
    obtain ⟨c₀, hj₀, hr₀, ha₀⟩ := hold
    obtain ⟨k, q, pl, ids, hq, hn, has, hph, hmem⟩ := h.parent hj₀ hr₀ ha₀
    have hk : k ≠ i := by
      rintro rfl
      rw [hc, Option.some.injEq] at hq
      subst hq
      exact hdone j (by rw [hph]; exact hmem) c₀ hj₀ hr₀
    exact ⟨k, q, pl, ids, by rw [enterAt_other cs hk, hq], hn, has, hph, hmem⟩
  children {k q pl ids} hk hq := by
    rcases of_getElem?_enterAt hc hk with ⟨rfl, rfl⟩ | ⟨-, hk⟩
    · simp only at hq
      rw [hq] at hp
      cases hp
    · exact (continues_enterAt hc p).children (h.children hk hq)

theorem request (h : Family cs) (n : Name) :
    Family (cs ++ [{ name := n, ancestors := [], phase := .requested }]) where
  parent {j c' as a} hj hr ha := by
    rw [List.getElem?_append] at hj
    split at hj
    · next hlt =>
      obtain ⟨k, q, pl, ids, hq, hn, has, hph, hmem⟩ := h.parent hj hr ha
      exact ⟨k, q, pl, ids, getElem?_append_of_eq_some hq _, hn, has, hph, hmem⟩
    · obtain rfl : c' = { name := n, ancestors := [], phase := .requested } := by
        simpa using List.mem_of_getElem? hj
      simp at ha
  children {k q pl ids} hk hq := by
    rw [List.getElem?_append] at hk
    split at hk
    · exact (continues_append cs _).children (h.children hk hq)
    · obtain rfl : q = { name := n, ancestors := [], phase := .requested } := by
        simpa using List.mem_of_getElem? hk
      cases hq

/-- An owner starts the calls for its dependencies, and waits for them. -/
theorem spawn (h : Family cs) {pl : Plan} (hc : cs[i]? = some c) (hp : c.phase = .recorded pl) :
    Family (enterAt (cs ++ pl.dependencies.map c.child) i
      (.waiting pl (List.range' cs.length pl.dependencies.length))) := by
  have hi : i < cs.length := (List.getElem?_eq_some_iff.1 hc).1
  have hc' : (cs ++ pl.dependencies.map c.child)[i]? = some c := getElem?_append_of_eq_some hc _
  have hcont := (continues_append cs (pl.dependencies.map c.child)).trans (continues_enterAt hc'
    (.waiting pl (List.range' cs.length pl.dependencies.length)))
  constructor
  · intro j c' as a hj hr ha
    -- the calls that were there keep their parents, none of which is the one that moves
    have hkeep : ∀ c₀, cs[j]? = some c₀ → c₀.phase.result? = none → c₀.ancestors = as ++ [a] →
        ∃ (k : CallId) (q : Call) (p : Plan) (ids : List CallId),
          (enterAt (cs ++ pl.dependencies.map c.child) i
            (.waiting pl (List.range' cs.length pl.dependencies.length)))[k]? = some q ∧ q.name = a ∧
          q.ancestors = as ∧ q.phase = .waiting p ids ∧ j ∈ ids := by
      intro c₀ hj₀ hr₀ ha₀
      obtain ⟨k, q, p, ids, hq, hn, has, hph, hmem⟩ := h.parent hj₀ hr₀ ha₀
      have hk : k ≠ i := by
        rintro rfl
        rw [hc, Option.some.injEq] at hq
        rw [← hq, hp] at hph
        cases hph
      exact ⟨k, q, p, ids, (enterAt_other _ hk _).trans (getElem?_append_of_eq_some hq _), hn, has, hph, hmem⟩
    rcases of_getElem?_enterAt hc' hj with ⟨rfl, rfl⟩ | ⟨hji, hj⟩
    · exact hkeep c hc (by rw [hp]; rfl) ha
    · rcases of_getElem?_append_map hj with hj | ⟨d, hlo, hhi, rfl⟩
      · exact hkeep c' hj hr ha
      · obtain ⟨has, ha⟩ := List.append_inj' ha rfl
        rw [List.singleton_inj] at ha
        exact ⟨i, _, pl, _, enterAt_self hc' _, ha, has, rfl, List.mem_range'_1.2 ⟨hlo, hhi⟩⟩
  · intro k q p ids hk hq
    rcases of_getElem?_enterAt hc' hk with ⟨rfl, rfl⟩ | ⟨hki, hk⟩
    · simp only [Phase.waiting.injEq] at hq
      obtain ⟨rfl, rfl⟩ := hq
      exact (getElem?_spawn hi _ _).imp fun j d hj => ⟨_, hj, rfl, rfl⟩
    · rcases of_getElem?_append_map hk with hk | ⟨d, -, -, rfl⟩
      · exact hcont.children (h.children hk hq)
      · cases hq

end Family

/-! ## The ledger -/

/-- The ledger holds what the phases of the calls say. -/
structure Accounted (l : Ledger) (cs : List Call) : Prop where
  /-- A name that a call owns is being built. -/
  owner_building {i : CallId} {c : Call} : cs[i]? = some c → c.phase.owns = true →
    l.records.get? c.name = some .building
  building_owner {n : Name} : l.records.get? n = some .building →
    ∃ (i : CallId) (c : Call), cs[i]? = some c ∧ c.name = n ∧ c.phase.owns = true
  owner_unique {i j : CallId} {c c' : Call} : cs[i]? = some c → cs[j]? = some c' → c.phase.owns = true →
    c'.phase.owns = true → c.name = c'.name → i = j
  owner_waits {i : CallId} {c : Call} {ds : List Name} : cs[i]? = some c → c.phase.awaited? = some ds →
    l.waits.get? c.name = some ds
  waits_owner {n : Name} {ds : List Name} : l.waits.get? n = some ds →
    ∃ (i : CallId) (c : Call), cs[i]? = some c ∧ c.name = n ∧ c.phase.awaited? = some ds
  /-- A call that was admitted has left a record of its name. -/
  admitted {i : CallId} {c : Call} : cs[i]? = some c → c.phase ≠ .requested → l.records.get? c.name ≠ none

/-- The ledger and the calls of a machine fit together. -/
structure Coherent (l : Ledger) (cs : List Call) : Prop extends Family cs, Accounted l cs

variable {l : Ledger}

namespace Coherent

/-- A call that has not returned asks for a dependency of the plan that its parent waits on. -/
theorem parent_plan (h : Coherent l cs) {j : CallId} {c : Call} {as : List Name} {a : Name}
    (hc : cs[j]? = some c) (hr : c.phase.result? = none) (ha : c.ancestors = as ++ [a]) :
    ∃ (i : CallId) (q : Call) (p : Plan) (ids : List CallId), cs[i]? = some q ∧ q.name = a ∧
      q.ancestors = as ∧ q.phase = .waiting p ids ∧ c.name ∈ p.dependencies := by
  obtain ⟨i, q, p, ids, hq, hn, has, hp, hj⟩ := h.parent hc hr ha
  obtain ⟨c', hc', hd, -⟩ := h.child hq hp hj
  rw [hc, Option.some.injEq] at hc'
  subst hc'
  exact ⟨i, q, p, ids, hq, hn, has, hp, hd⟩

/-- The parent of a call that has not returned is being built, and waits for the call's name. -/
theorem parent_edge (h : Coherent l cs) {j : CallId} {c : Call} {as : List Name} {a : Name}
    (hc : cs[j]? = some c) (hr : c.phase.result? = none) (ha : c.ancestors = as ++ [a]) :
    l.records.get? a = some .building ∧ l.waits.Edge a c.name := by
  obtain ⟨i, q, p, ids, hq, rfl, -, hp, hd⟩ := h.parent_plan hc hr ha
  have hw := h.owner_waits hq (by rw [hp]; rfl)
  exact ⟨h.owner_building hq (by rw [hp]; rfl), Waits.edge_of_get? hw hd⟩

/-- The ancestors of a call that has not returned are all being built. -/
theorem ancestor_building (h : Coherent l cs) {j : CallId} {c : Call} {a : Name} (hc : cs[j]? = some c)
    (hr : c.phase.result? = none) (ha : a ∈ c.ancestors) : l.records.get? a = some .building := by
  generalize has : c.ancestors = as at ha
  -- from the last ancestor, the parent, to the first
  induction as using List.reverseRecOn generalizing j c with
  | nil => simp at ha
  | append_singleton as b ih =>
    obtain ⟨i, q, p, ids, hq, hn, hqa, hp, -⟩ := h.parent hc hr has
    rcases List.mem_append.1 ha with ha | ha
    · exact ih hq (by rw [hp]; rfl) hqa ha
    · rw [List.mem_singleton] at ha
      subst ha hn
      exact h.owner_building hq (by rw [hp]; rfl)

end Coherent

/-! ## What keeps the ledger in step -/

namespace Accounted

/-- The only call that may own a name moves, and the ledger says of that name what its phase says. -/
theorem enter_owner (h : Accounted l cs) {l' : Ledger} (hc : cs[i]? = some c)
    (hsole : ∀ j c', j ≠ i → cs[j]? = some c' → c'.phase.owns = true → c'.name ≠ c.name)
    (hrec : ∀ n, n ≠ c.name → l'.records.get? n = l.records.get? n)
    (hself : l'.records.get? c.name = some .building ↔ p.owns = true) (hsome : l'.records.get? c.name ≠ none)
    (hwait : ∀ n, n ≠ c.name → l'.waits.get? n = l.waits.get? n)
    (hwself : l'.waits.get? c.name = p.awaited?) : Accounted l' (enterAt cs i p) where
  owner_building {j c'} hj ho := by
    rcases of_getElem?_enterAt hc hj with ⟨rfl, rfl⟩ | ⟨hji, hj⟩
    · exact hself.2 ho
    · rw [hrec _ (hsole j c' hji hj ho)]
      exact h.owner_building hj ho
  building_owner {n} hn := by
    by_cases hnc : n = c.name
    · subst hnc
      exact ⟨i, _, enterAt_self hc p, rfl, hself.1 hn⟩
    · rw [hrec n hnc] at hn
      obtain ⟨j, c', hj, rfl, ho⟩ := h.building_owner hn
      have hji : j ≠ i := by
        rintro rfl
        rw [hc, Option.some.injEq] at hj
        exact hnc (by rw [hj])
      exact ⟨j, c', by rw [enterAt_other cs hji, hj], rfl, ho⟩
  owner_unique {j k c₁ c₂} hj hk ho₁ ho₂ hn := by
    rcases of_getElem?_enterAt hc hj with ⟨rfl, rfl⟩ | ⟨hji, hj'⟩ <;>
      rcases of_getElem?_enterAt hc hk with ⟨rfl, rfl⟩ | ⟨hki, hk'⟩
    · rfl
    · exact absurd hn.symm (hsole k c₂ hki hk' ho₂)
    · exact absurd hn (hsole j c₁ hji hj' ho₁)
    · exact h.owner_unique hj' hk' ho₁ ho₂ hn
  owner_waits {j c' ds} hj ha := by
    rcases of_getElem?_enterAt hc hj with ⟨rfl, rfl⟩ | ⟨hji, hj⟩
    · rw [hwself]
      exact ha
    · rw [hwait _ (hsole j c' hji hj (Phase.owns_of_awaited? ha))]
      exact h.owner_waits hj ha
  waits_owner {n ds} hn := by
    by_cases hnc : n = c.name
    · subst hnc
      exact ⟨i, _, enterAt_self hc p, rfl, by rw [← hn, hwself]⟩
    · rw [hwait n hnc] at hn
      obtain ⟨j, c', hj, rfl, ha⟩ := h.waits_owner hn
      have hji : j ≠ i := by
        rintro rfl
        rw [hc, Option.some.injEq] at hj
        exact hnc (by rw [hj])
      exact ⟨j, c', by rw [enterAt_other cs hji, hj], rfl, ha⟩
  admitted {j c'} hj hq := by
    by_cases hnc : c'.name = c.name
    · rw [hnc]
      exact hsome
    · rcases of_getElem?_enterAt hc hj with ⟨rfl, rfl⟩ | ⟨-, hj⟩
      · exact absurd rfl hnc
      · rw [hrec _ hnc]
        exact h.admitted hj hq

/-- A call that does not own its name moves, and the ledger stays as it is. -/
theorem enter_guest (h : Accounted l cs) (hc : cs[i]? = some c) (ho : c.phase.owns = false)
    (hp : p.owns = false) (hsome : l.records.get? c.name ≠ none) : Accounted l (enterAt cs i p) := by
  -- only an owner has waits, so the call has none before or after
  have hawaited : ∀ ds, p.awaited? ≠ some ds := fun ds hd => by
    rw [Phase.owns_of_awaited? hd] at hp
    cases hp
  have hother : ∀ {j : CallId} {c' : Call}, cs[j]? = some c' → c'.phase.owns = true → j ≠ i := by
    rintro j c' hj hoj rfl
    rw [hc, Option.some.injEq] at hj
    rw [← hj, ho] at hoj
    cases hoj
  refine ⟨?_, ?_, ?_, ?_, ?_, ?_⟩
  · intro j c' hj hoj
    rcases of_getElem?_enterAt hc hj with ⟨rfl, rfl⟩ | ⟨-, hj⟩
    · rw [hp] at hoj
      cases hoj
    · exact h.owner_building hj hoj
  · intro n hn
    obtain ⟨j, c', hj, hname, hoj⟩ := h.building_owner hn
    exact ⟨j, c', by rw [enterAt_other cs (hother hj hoj), hj], hname, hoj⟩
  · intro j k c₁ c₂ hj hk ho₁ ho₂ hn
    rcases of_getElem?_enterAt hc hj with ⟨rfl, rfl⟩ | ⟨-, hj⟩
    · rw [hp] at ho₁
      cases ho₁
    rcases of_getElem?_enterAt hc hk with ⟨rfl, rfl⟩ | ⟨-, hk⟩
    · rw [hp] at ho₂
      cases ho₂
    exact h.owner_unique hj hk ho₁ ho₂ hn
  · intro j c' ds hj ha
    rcases of_getElem?_enterAt hc hj with ⟨rfl, rfl⟩ | ⟨-, hj⟩
    · exact absurd ha (hawaited ds)
    · exact h.owner_waits hj ha
  · intro n ds hn
    obtain ⟨j, c', hj, hname, ha⟩ := h.waits_owner hn
    exact ⟨j, c', by rw [enterAt_other cs (hother hj (Phase.owns_of_awaited? ha)), hj], hname, ha⟩
  · intro j c' hj hq
    rcases of_getElem?_enterAt hc hj with ⟨rfl, rfl⟩ | ⟨-, hj⟩
    · exact hsome
    · exact h.admitted hj hq

/-- Calls that wait for their admission may be added. -/
theorem append {ds : List Call} (h : Accounted l cs) (hd : ∀ c ∈ ds, c.phase = .requested) :
    Accounted l (cs ++ ds) := by
  -- a call past its admission cannot be one of the new ones
  have hold : ∀ {j : CallId} {c' : Call}, (cs ++ ds)[j]? = some c' → c'.phase ≠ .requested →
      cs[j]? = some c' := by
    intro j c' hj hp
    rw [List.getElem?_append] at hj
    split at hj
    · exact hj
    · exact absurd (hd c' (List.mem_of_getElem? hj)) hp
  have howns : ∀ {p : Phase}, p.owns = true → p ≠ .requested := by rintro p hp rfl; cases hp
  refine ⟨?_, ?_, ?_, ?_, ?_, ?_⟩
  · intro j c' hj ho
    exact h.owner_building (hold hj (howns ho)) ho
  · intro n hn
    obtain ⟨j, c', hj, hname, ho⟩ := h.building_owner hn
    exact ⟨j, c', getElem?_append_of_eq_some hj ds, hname, ho⟩
  · intro j k c₁ c₂ hj hk ho₁ ho₂ hn
    exact h.owner_unique (hold hj (howns ho₁)) (hold hk (howns ho₂)) ho₁ ho₂ hn
  · intro j c' ds hj ha
    exact h.owner_waits (hold hj (howns (Phase.owns_of_awaited? ha))) ha
  · intro n ds hn
    obtain ⟨j, c', hj, hname, ha⟩ := h.waits_owner hn
    exact ⟨j, c', getElem?_append_of_eq_some hj _, hname, ha⟩
  · intro j c' hj hq
    exact h.admitted (hold hj hq) hq

end Accounted

/-! ## Steps keep it -/

namespace Coherent

/-- Nobody waits under a name of which there is no record. -/
theorem waits_get?_eq_none (h : Coherent l cs) {n : Name} (hn : l.records.get? n ≠ some .building) :
    l.waits.get? n = none := by
  cases hw : l.waits.get? n with
  | none => rfl
  | some ds =>
    obtain ⟨j, c, hj, rfl, ha⟩ := h.waits_owner hw
    exact absurd (h.owner_building hj (Phase.owns_of_awaited? ha)) hn

/-- The first request for a name becomes its owner. -/
theorem own (h : Coherent l cs) (hc : cs[i]? = some c) (hp : c.phase = .requested)
    (ha : l.admission c.name c.ancestors = .own) : Coherent (l.enroll c.name) (enterAt cs i .resolving) := by
  have hnone := (Ledger.get?_of_own ha).2
  refine ⟨h.toFamily.enter hc (by rw [hp]; rfl) (by simp [hp, Phase.children]) rfl,
    h.toAccounted.enter_owner hc ?_ ?_ ?_ ?_ (fun _ _ => rfl) ?_⟩
  · intro j c' _ hj ho hn
    have := h.owner_building hj ho
    rw [hn, hnone] at this
    cases this
  · intro n hn
    rw [Ledger.records_get?_enroll, if_neg hn]
  · simp [Ledger.records_get?_enroll, Phase.owns]
  · simp [Ledger.records_get?_enroll]
  · exact h.waits_get?_eq_none (by simp [hnone])

/-- An owner moves on, and the ledger with it. -/
theorem owner (h : Coherent l cs) {l' : Ledger} (hc : cs[i]? = some c) (ho : c.phase.owns = true)
    (hdone : ∀ j ∈ c.phase.children, ∀ c', cs[j]? = some c' → c'.phase.result? ≠ none)
    (hp : p.isWaiting = false) (hrec : ∀ n, n ≠ c.name → l'.records.get? n = l.records.get? n)
    (hself : l'.records.get? c.name = some .building ↔ p.owns = true) (hsome : l'.records.get? c.name ≠ none)
    (hwait : ∀ n, n ≠ c.name → l'.waits.get? n = l.waits.get? n)
    (hwself : l'.waits.get? c.name = p.awaited?) : Coherent l' (enterAt cs i p) := by
  refine ⟨h.toFamily.enter hc (Phase.result?_of_owns ho) hdone hp,
    h.toAccounted.enter_owner hc ?_ hrec hself hsome hwait hwself⟩
  intro j c' hji hj ho' hn
  exact hji (h.owner_unique hj hc ho' ho hn)

/-- The waits under the name of an owner are those that its phase says. -/
theorem waits_get?_owner (h : Coherent l cs) (hc : cs[i]? = some c) (ho : c.phase.owns = true) :
    l.waits.get? c.name = c.phase.awaited? := by
  cases hw : l.waits.get? c.name with
  | none =>
    cases ha : c.phase.awaited? with
    | none => rfl
    | some ds =>
      rw [h.owner_waits hc ha] at hw
      cases hw
  | some ds =>
    obtain ⟨j, c', hj, hn, ha⟩ := h.waits_owner hw
    obtain rfl := h.owner_unique hj hc (Phase.owns_of_awaited? ha) ho hn
    rw [hc, Option.some.injEq] at hj
    rw [hj, ha]

/-- An owner moves on without touching the ledger. -/
theorem owner_inner (h : Coherent l cs) (hc : cs[i]? = some c) (ho : c.phase.owns = true)
    (hdone : ∀ j ∈ c.phase.children, ∀ c', cs[j]? = some c' → c'.phase.result? ≠ none)
    (hp : p.isWaiting = false) (hpo : p.owns = true) (ha : p.awaited? = c.phase.awaited?) :
    Coherent l (enterAt cs i p) := by
  have hb := h.owner_building hc ho
  refine h.owner hc ho hdone hp (fun _ _ => rfl) (by simp [hb, hpo]) (by simp [hb]) (fun _ _ => rfl) ?_
  rw [ha, h.waits_get?_owner hc ho]

/-- A call that owns nothing moves on. -/
theorem guest (h : Coherent l cs) (hc : cs[i]? = some c) (hr : c.phase.result? = none)
    (ho : c.phase.owns = false) (hp : p.owns = false) (hsome : l.records.get? c.name ≠ none) :
    Coherent l (enterAt cs i p) := by
  have hchildren : c.phase.children = [] := by
    cases hph : c.phase <;> rw [hph] at ho <;> first | rfl | cases ho
  have hwaiting : p.isWaiting = false := by
    cases p <;> first | rfl | cases hp
  exact ⟨h.toFamily.enter hc hr (by simp [hchildren]) hwaiting, h.toAccounted.enter_guest hc ho hp hsome⟩

/-- An owner records its dependencies as waited for. -/
theorem record (h : Coherent l cs) {pl : Plan} (hc : cs[i]? = some c) (hp : c.phase = .planned pl) :
    Coherent (l.await c.name pl.dependencies) (enterAt cs i (.recorded pl)) := by
  have hb := h.owner_building hc (by rw [hp]; rfl)
  refine h.owner hc (by rw [hp]; rfl) (by simp [hp, Phase.children]) rfl (fun _ _ => rfl) ?_ ?_ ?_ ?_
  · simp [hb, Phase.owns]
  · simp [hb]
  · intro n hn
    rw [Ledger.waits_get?_await, if_neg hn]
  · rw [Ledger.waits_get?_await, if_pos rfl]
    rfl

/-- An owner forgets its waits. -/
theorem forget (h : Coherent l cs) {pl : Plan} {o : Outcome} (hc : cs[i]? = some c)
    (hp : c.phase = .gathered pl o) (hpw : p.isWaiting = false) (hpo : p.owns = true)
    (hpa : p.awaited? = none) : Coherent (l.release c.name) (enterAt cs i p) := by
  have hb := h.owner_building hc (by rw [hp]; rfl)
  refine h.owner hc (by rw [hp]; rfl) (by simp [hp, Phase.children]) hpw (fun _ _ => rfl) ?_ ?_ ?_ ?_
  · simp [hb, hpo]
  · simp [hb]
  · intro n hn
    rw [Ledger.waits_get?_release, if_neg hn]
  · rw [Ledger.waits_get?_release, if_pos rfl, hpa]

/-- An owner publishes its outcome and owns its name no longer. -/
theorem publish (h : Coherent l cs) {o : Outcome} (hc : cs[i]? = some c) (hp : c.phase = .closing o) :
    Coherent (l.settle c.name o) (enterAt cs i (.returned o)) := by
  refine h.owner hc (by rw [hp]; rfl) (by simp [hp, Phase.children]) rfl ?_ ?_ ?_ (fun _ _ => rfl) ?_
  · intro n hn
    rw [Ledger.records_get?_settle, if_neg hn]
  · simp [Ledger.records_get?_settle, Phase.owns]
  · simp [Ledger.records_get?_settle]
  · rw [Ledger.waits_settle, h.waits_get?_owner hc (by rw [hp]; rfl), hp]
    rfl

/-- An owner starts the calls for its dependencies. -/
theorem spawn (h : Coherent l cs) {pl : Plan} (hc : cs[i]? = some c) (hp : c.phase = .recorded pl) :
    Coherent l (enterAt (cs ++ pl.dependencies.map c.child) i
      (.waiting pl (List.range' cs.length pl.dependencies.length))) := by
  have ho : c.phase.owns = true := by rw [hp]; rfl
  have hb := h.owner_building hc ho
  have happ : Accounted l (cs ++ pl.dependencies.map c.child) :=
    h.toAccounted.append fun _ => Call.phase_of_mem_children
  have hc' : (cs ++ pl.dependencies.map c.child)[i]? = some c := getElem?_append_of_eq_some hc _
  refine ⟨h.toFamily.spawn hc hp, happ.enter_owner hc' ?_ (fun _ _ => rfl) (by simp [hb, Phase.owns])
    (by simp [hb]) (fun _ _ => rfl) ?_⟩
  · intro j c₁ hji hj ho₁ hn
    exact hji (happ.owner_unique hj hc' ho₁ ho hn)
  · rw [h.waits_get?_owner hc ho, hp]
    rfl

/-- A name is requested from outside. -/
theorem request (h : Coherent l cs) (n : Name) :
    Coherent l (cs ++ [{ name := n, ancestors := [], phase := .requested }]) :=
  ⟨h.toFamily.request n, h.toAccounted.append (by simp)⟩

end Coherent

theorem mapM_eq_some_iff {α β : Type} {f : α → Option β} {xs : List α} {ys : List β} :
    xs.mapM f = some ys ↔ List.Forall₂ (fun x y => f x = some y) xs ys := by
  induction xs generalizing ys with
  | nil => simp [eq_comm]
  | cons x xs ih =>
    cases ys with
    | nil => simp [Option.bind_eq_some_iff]
    | cons y ys => simp [Option.bind_eq_some_iff, ih]

theorem forall₂_of_forall₂ {α β γ : Type} {R : α → β → Prop} {S : α → γ → Prop} {T : β → γ → Prop}
    {as : List α} {bs : List β} {xs : List γ} (hr : List.Forall₂ R as bs) (hs : List.Forall₂ S as xs)
    (h : ∀ a b x, R a b → S a x → T b x) : List.Forall₂ T bs xs := by
  induction hr generalizing xs with
  | nil =>
    cases hs
    exact .nil
  | cons hab _ ih =>
    cases hs with
    | cons hax hs => exact .cons (h _ _ _ hab hax) (ih hs)

/-- Once the calls that an owner waits for have returned, each dependency stands beside the outcome of its
own call. -/
theorem Coherent.zip_ended (h : Coherent l cs) {pl : Plan} {ids : List CallId} {os : List Outcome}
    (hc : cs[i]? = some c) (hp : c.phase = .waiting pl ids)
    (hos : List.Forall₂ (fun j o => ∃ c' : Call, cs[j]? = some c' ∧ c'.phase = .returned o) ids os) :
    (pl.dependencies.zip os).map (·.1) = pl.dependencies ∧
      ∀ a ∈ pl.dependencies.zip os, ∃ (j : CallId) (c' : Call), cs[j]? = some c' ∧ c'.name = a.1 ∧
        c'.phase = .returned a.2 := by
  have hended : List.Forall₂ (fun d o => ∃ (j : CallId) (c' : Call), cs[j]? = some c' ∧ c'.name = d ∧
      c'.phase = .returned o) pl.dependencies os := by
    refine forall₂_of_forall₂ (h.children hc hp) hos ?_
    rintro j d o ⟨c', hj, hn, -⟩ ⟨c'', hj', hph⟩
    rw [hj, Option.some.injEq] at hj'
    subst hj'
    exact ⟨j, c', hj, hn, hph⟩
  obtain ⟨hlen, hzip⟩ := List.forall₂_iff_zip.1 hended
  exact ⟨List.map_fst_zip (Nat.le_of_eq hlen), fun a ha => hzip ha⟩

namespace Machine

variable {σ : Type} {site : Site σ} {m m' : Machine σ}

/-- The calls that a machine has gathered from have returned. -/
theorem result?_of_gather {ids : List CallId} {os : List Outcome} (h : ids.mapM m.result? = some os)
    {j : CallId} (hj : j ∈ ids) {c' : Call} (hc' : m.calls[j]? = some c') : c'.phase.result? ≠ none := by
  obtain ⟨k, hk, rfl⟩ := List.getElem_of_mem hj
  have hf := mapM_eq_some_iff.1 h
  have hko : k < os.length := hf.length_eq ▸ hk
  have hres := hf.get hk hko
  simp only [List.get_eq_getElem, result?, hc', Option.bind_some] at hres
  simp [hres]

/-- A step lets its call enter a phase, and may start calls for dependencies before. -/
theorem calls_of_moves (hm : Moves site m i c m') :
    ∃ p, m'.calls = enterAt m.calls i p ∨
      ∃ pl : Plan, m'.calls = enterAt (m.calls ++ pl.dependencies.map c.child) i p := by
  cases hm with
  | acquire hp hs =>
    obtain ⟨free, rfl, -⟩ := eq_of_takeSlot hs
    exact ⟨_, .inl rfl⟩
  | @plan p => exact ⟨.planned p, .inl (by simp)⟩
  | @queue p => exact ⟨.queued p.commands, .inl (by simp)⟩
  | @leave o => exact ⟨.closing o, .inl (by simp)⟩
  | @spawn p hp => exact ⟨_, .inr ⟨p, rfl⟩⟩
  | own | join | refuse | inherit | find | miss | record | gather | proceed | abandon | skip | exhaust
  | launch | pass | fail | publish => exact ⟨_, .inl rfl⟩

theorem continues_of_moves (hc : m.calls[i]? = some c) (hm : Moves site m i c m') :
    Continues m.calls m'.calls := by
  obtain ⟨p, h | ⟨pl, h⟩⟩ := calls_of_moves hm
  · exact h ▸ continues_enterAt hc p
  · exact h ▸ (continues_append _ _).trans (continues_enterAt (getElem?_append_of_eq_some hc _) p)

/-- No step adds a request from outside. -/
theorem of_root_of_moves (hc : m.calls[i]? = some c) (hm : Moves site m i c m') {j : CallId} {r : Call}
    (hj : m'.calls[j]? = some r) (hr : r.ancestors = []) :
    ∃ r', m.calls[j]? = some r' ∧ r'.name = r.name ∧ r'.ancestors = [] := by
  have hmoved : ∀ {cs : List Call} {p : Phase}, cs[i]? = some c → (enterAt cs i p)[j]? = some r →
      ∃ r', cs[j]? = some r' ∧ r'.name = r.name ∧ r'.ancestors = [] := by
    intro cs p hc hj
    rcases of_getElem?_enterAt hc hj with ⟨rfl, rfl⟩ | ⟨-, hj⟩
    · exact ⟨c, hc, rfl, hr⟩
    · exact ⟨r, hj, rfl, hr⟩
  obtain ⟨p, h | ⟨pl, h⟩⟩ := calls_of_moves hm
  · exact hmoved hc (h ▸ hj)
  · obtain ⟨r', hj', hn, hr'⟩ := hmoved (getElem?_append_of_eq_some hc _) (h ▸ hj)
    rcases of_getElem?_append_map hj' with hj' | ⟨d, -, -, rfl⟩
    · exact ⟨r', hj', hn, hr'⟩
    · simp [Call.child] at hr'

theorem mem_roots_of_step (hs : m.step site i = some m') {n : Name} : n ∈ m'.roots ↔ n ∈ m.roots := by
  obtain ⟨c, hc, hm⟩ := step_iff.1 hs
  rw [mem_roots, mem_roots]
  constructor
  · rintro ⟨j, r, hj, hr, rfl⟩
    obtain ⟨r', hj', hn, hr'⟩ := of_root_of_moves hc hm hj hr
    exact ⟨j, r', hj', hr', hn⟩
  · rintro ⟨j, r, hj, hr, rfl⟩
    obtain ⟨r', hj', hn, hr'⟩ := continues_of_moves hc hm j r hj
    exact ⟨j, r', hj', hr'.trans hr, hn⟩

theorem of_result? {j : CallId} {o : Outcome} (h : m.result? j = some o) :
    ∃ c, m.calls[j]? = some c ∧ c.phase = .returned o := by
  obtain ⟨c, hj, ho⟩ := Option.bind_eq_some_iff.1 h
  refine ⟨c, hj, ?_⟩
  cases hp : c.phase <;> simp_all [Phase.result?]

theorem forall₂_of_gather {ids : List CallId} {os : List Outcome} (h : ids.mapM m.result? = some os) :
    List.Forall₂ (fun j o => ∃ c' : Call, m.calls[j]? = some c' ∧ c'.phase = .returned o) ids os :=
  (mapM_eq_some_iff.1 h).imp fun _ _ => of_result?

theorem coherent_moves (h : Coherent m.ledger m.calls) (hc : m.calls[i]? = some c)
    (hm : Moves site m i c m') : Coherent m'.ledger m'.calls := by
  have hnil : ∀ {ph : Phase}, c.phase = ph → ph.children = [] →
      ∀ j ∈ c.phase.children, ∀ c', m.calls[j]? = some c' → c'.phase.result? ≠ none :=
    fun hp hch => by simp [hp, hch]
  cases hm with
  | own hp ha => exact h.own hc hp ha
  | join hp ha =>
    refine h.guest hc (by rw [hp]; rfl) (by rw [hp]; rfl) rfl ?_
    rcases (Ledger.get?_of_join ha).2 with ⟨o, hg⟩ | ⟨hg, -⟩ <;> simp [hg]
  | refuse hp ha =>
    refine h.guest hc (by rw [hp]; rfl) (by rw [hp]; rfl) rfl ?_
    rcases (Ledger.eq_of_refuse ha).2 with hn | ⟨hg, -⟩
    · simp [h.ancestor_building hc (by rw [hp]; rfl) hn]
    · simp [hg]
  | inherit hp ho =>
    exact h.guest hc (by rw [hp]; rfl) (by rw [hp]; rfl) rfl (h.admitted hc (by simp [hp]))
  | plan hp _ _ | queue hp _ _ =>
    simp only [enter_ledger, enter_calls, noteIf_ledger, noteIf_calls]
    exact h.owner_inner hc (by rw [hp]; rfl) (hnil hp rfl) rfl rfl (by rw [hp]; rfl)
  | leave hp =>
    simp only [enter_ledger, enter_calls, giveSlot_ledger, giveSlot_calls, noteIf_ledger, noteIf_calls]
    exact h.owner_inner hc (by rw [hp]; rfl) (hnil hp rfl) rfl rfl (by rw [hp]; rfl)
  | acquire hp hs =>
    obtain ⟨free, rfl, -⟩ := eq_of_takeSlot hs
    exact h.owner_inner hc (by rw [hp]; rfl) (hnil hp rfl) rfl rfl (by rw [hp]; rfl)
  | find hp _ | miss hp _ | skip hp | exhaust hp | launch hp | pass hp _ | fail hp _ =>
    exact h.owner_inner hc (by rw [hp]; rfl) (hnil hp rfl) rfl rfl (by rw [hp]; rfl)
  | record hp => exact h.record hc hp
  | spawn hp => exact h.spawn hc hp
  | gather hp hos =>
    refine h.owner_inner hc (by rw [hp]; rfl) ?_ rfl rfl (by rw [hp]; rfl)
    intro j hj c' hj'
    rw [hp] at hj
    exact result?_of_gather hos hj hj'
  | proceed hp | abandon hp => exact h.forget hc hp rfl rfl rfl
  | publish hp => exact h.publish hc hp

/-- In every reachable machine the ledger and the calls fit together. -/
theorem reachable_coherent {ok : σ → Prop} {jobs : Option Int} (h : Reachable site ok jobs m) :
    Coherent m.ledger m.calls := by
  induction h with
  | new hm _ =>
    obtain ⟨free, rfl, -⟩ := eq_of_new hm
    exact ⟨⟨by simp, by simp⟩, ⟨by simp, by simp, by simp, by simp, by simp, by simp⟩⟩
  | next _ hn _ ih =>
    cases hn with
    | step hs =>
      obtain ⟨c, hc, hm⟩ := step_iff.1 hs
      exact coherent_moves ih hc hm
    | start n => exact ih.request n
    | turn w => exact ih

end Machine

end Buildfile.Build
