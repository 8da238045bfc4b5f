import Buildfile.Build.Dependency
import Buildfile.Proofs.Coherence
import Mathlib.Data.Fintype.EquivFin
/-!
# Some call can always go on

A call that cannot take a step waits: a joined call for the owner of its name, an owner for the
calls of its dependencies, a queued target for a job slot. `Machine.WaitsFor` is that relation, and
`progress` says that it never closes a circle and that every call which has not returned waits,
perhaps through others, for one that can take a step. So nothing ever blocks for good.

The edges of the ledger alone do not show this, since a name is admitted before its edges are
recorded. What is acyclic at every moment is `Awaits`, which has an edge for each call that was
admitted and has not returned. It is the admission that adds an edge, and at that moment every
other edge on a would-be circle is recorded, because the parent of an admitted call has its edges
recorded; so the search finds the rest of the circle and refuses.
-/

namespace Buildfile.Build

open Relation

variable {cs : List Call} {i : CallId} {c : Call} {p : Phase} {l : Ledger}

/-! ## Job slots -/

/-- The free slots and the calls that hold one are as many as the bound on jobs says. -/
def SlotsKept (jobs : Option Int) (slots : Option Nat) (cs : List Call) : Prop :=
  (jobs = none ∧ slots = none) ∨
    ∃ k free : Nat, jobs = some (k + 1 : Int) ∧ slots = some free ∧
      free + cs.countP (·.phase.holdsSlot) = k + 1

theorem countP_enterAt (f : Call → Bool) (hc : cs[i]? = some c) (p : Phase) :
    (enterAt cs i p).countP f + (f c).toNat = cs.countP f + (f { c with phase := p }).toNat := by
  obtain ⟨l₁, l₂, hcs, hm⟩ := exists_enterAt_eq hc p
  rw [hm, hcs]
  simp only [List.countP_append, List.countP_cons]
  cases f c <;> cases f { c with phase := p } <;> simp <;> omega

namespace SlotsKept

variable {jobs : Option Int} {slots : Option Nat}

theorem enter (h : SlotsKept jobs slots cs) (hc : cs[i]? = some c) (hp : p.holdsSlot = c.phase.holdsSlot) :
    SlotsKept jobs slots (enterAt cs i p) := by
  rcases h with h | ⟨k, free, hj, hs, hk⟩
  · exact .inl h
  · have hcount := countP_enterAt (·.phase.holdsSlot) hc p
    simp only [hp] at hcount
    exact .inr ⟨k, free, hj, hs, by omega⟩

theorem append {ds : List Call} (h : SlotsKept jobs slots cs) (hd : ∀ c ∈ ds, c.phase = .requested) :
    SlotsKept jobs slots (cs ++ ds) := by
  rcases h with h | ⟨k, free, hj, hs, hk⟩
  · exact .inl h
  · have hnone : ds.countP (·.phase.holdsSlot) = 0 := by
      rw [List.countP_eq_zero]
      intro c hc
      simp [hd c hc, Phase.holdsSlot]
    exact .inr ⟨k, free, hj, hs, by rw [List.countP_append, hnone]; omega⟩

/-- A slot is taken by a call that held none. -/
theorem take {slots' : Option Nat} (h : SlotsKept jobs slots cs) (hc : cs[i]? = some c)
    (hs : slots = none ∧ slots' = none ∨ ∃ k, slots = some (k + 1) ∧ slots' = some k)
    (ho : c.phase.holdsSlot = false) (hp : p.holdsSlot = true) : SlotsKept jobs slots' (enterAt cs i p) := by
  rcases h with ⟨hj, hn⟩ | ⟨k, free, hj, hf, hk⟩
  · rcases hs with ⟨-, hs'⟩ | ⟨k, hs, -⟩
    · exact .inl ⟨hj, hs'⟩
    · rw [hn] at hs; cases hs
  · rcases hs with ⟨hs, -⟩ | ⟨k', hs, hs'⟩
    · rw [hf] at hs; cases hs
    · rw [hf, Option.some.injEq] at hs
      have hcount := countP_enterAt (·.phase.holdsSlot) hc p
      simp only [hp, ho, Bool.toNat_true, Bool.toNat_false] at hcount
      exact .inr ⟨k, k', hj, hs', by omega⟩

/-- A slot is given back by a call that held one. -/
theorem give (h : SlotsKept jobs slots cs) (hc : cs[i]? = some c) (ho : c.phase.holdsSlot = true)
    (hp : p.holdsSlot = false) : SlotsKept jobs (slots.map (· + 1)) (enterAt cs i p) := by
  rcases h with ⟨hj, rfl⟩ | ⟨k, free, hj, rfl, hk⟩
  · exact .inl ⟨hj, rfl⟩
  · have hcount := countP_enterAt (·.phase.holdsSlot) hc p
    simp only [hp, ho, Bool.toNat_true, Bool.toNat_false] at hcount
    exact .inr ⟨k, free + 1, hj, rfl, by omega⟩

/-- When no slot is free, some call holds one. -/
theorem exists_holder (h : SlotsKept jobs (some 0) cs) : ∃ (j : CallId) (c : Call), cs[j]? = some c ∧
    c.phase.holdsSlot = true := by
  rcases h with ⟨-, h⟩ | ⟨k, free, -, hf, hk⟩
  · cases h
  · cases hf
    have hpos : 0 < cs.countP (·.phase.holdsSlot) := by omega
    obtain ⟨c, hc, hh⟩ := List.countP_pos_iff.1 hpos
    obtain ⟨j, hj⟩ := List.getElem?_of_mem hc
    exact ⟨j, c, hj, hh⟩

end SlotsKept

/-! ## Circles -/

/-- Whether a call in this phase was admitted and has not returned. -/
def Phase.isLive : Phase → Bool
  | requested | returned _ => false
  | _ => true

/-- A call that `n` has started for `d` was admitted and has not returned. -/
def Awaits (cs : List Call) (n d : Name) : Prop :=
  ∃ (j : CallId) (c : Call) (as : List Name), cs[j]? = some c ∧ c.name = d ∧ c.ancestors = as ++ [n] ∧
    c.phase.isLive = true

/-- No name awaits itself, however many calls lie between. -/
def Acyclic (cs : List Call) : Prop := ∀ n, ¬ TransGen (Awaits cs) n n

theorem result?_of_isLive {p : Phase} (h : p.isLive = true) : p.result? = none := by
  cases p <;> simp_all [Phase.isLive, Phase.result?]

/-- Adding an edge closes no circle if no path led back from its end to its start. -/
theorem transGen_of_add {α : Type} {r s : α → α → Prop} {a b : α}
    (hs : ∀ x y, s x y → r x y ∨ (x = a ∧ y = b)) (hback : ¬ ReflTransGen r b a) {x y : α}
    (h : TransGen s x y) : TransGen r x y ∨ (ReflTransGen r x a ∧ ReflTransGen r b y) := by
  induction h with
  | single h =>
    rcases hs _ _ h with h | ⟨rfl, rfl⟩
    · exact .inl (.single h)
    · exact .inr ⟨.refl, .refl⟩
  | tail _ h ih =>
    rcases hs _ _ h with h | ⟨rfl, rfl⟩ <;> rcases ih with ih | ⟨ih, ih'⟩
    · exact .inl (ih.tail h)
    · exact .inr ⟨ih, ih'.tail h⟩
    · exact .inr ⟨ih.to_reflTransGen, .refl⟩
    · exact absurd ih' hback

theorem not_transGen_of_add {α : Type} {r s : α → α → Prop} {a b : α}
    (hs : ∀ x y, s x y → r x y ∨ (x = a ∧ y = b)) (hback : ¬ ReflTransGen r b a)
    (hr : ∀ x, ¬ TransGen r x x) (x : α) : ¬ TransGen s x x := by
  intro h
  rcases transGen_of_add hs hback h with h | ⟨h, h'⟩
  · exact hr x h
  · exact hback (h'.trans h)

namespace Coherent

/-- What is awaited is recorded as waited for, by a name that is being built. -/
theorem awaits_edge (h : Coherent l cs) {n d : Name} (ha : Awaits cs n d) :
    l.records.get? n = some .building ∧ l.waits.Edge n d := by
  obtain ⟨j, c, as, hc, rfl, has, hl⟩ := ha
  exact h.parent_edge hc (result?_of_isLive hl) has

/-- A name that is not being built awaits nothing. -/
theorem eq_of_awaits_path (h : Coherent l cs) {n d : Name} (hn : l.records.get? n ≠ some .building)
    (hp : ReflTransGen (Awaits cs) n d) : d = n := by
  -- the first edge of a path starts at a name that is being built
  rcases hp.cases_head with rfl | ⟨e, he, -⟩
  · rfl
  · exact absurd (h.awaits_edge he).1 hn

/-- A call that is admitted closes no circle. -/
theorem no_path_back (h : Coherent l cs) {as : List Name} {a : Name} (hc : c.ancestors = as ++ [a])
    (ha : l.admission c.name c.ancestors = .own ∨ l.admission c.name c.ancestors = .join) :
    ¬ ReflTransGen (Awaits cs) c.name a := by
  have hmem : a ∈ c.ancestors := by simp [hc]
  have hfresh : c.name ∉ c.ancestors → l.records.get? c.name ≠ some .building →
      ¬ ReflTransGen (Awaits cs) c.name a := by
    intro hn hb hp
    exact hn (h.eq_of_awaits_path hb hp ▸ hmem)
  rcases ha with ha | ha
  · obtain ⟨hn, hnone⟩ := Ledger.get?_of_own ha
    exact hfresh hn (by simp [hnone])
  · obtain ⟨hn, ⟨o, hg⟩ | ⟨-, hw⟩⟩ := Ledger.get?_of_join ha
    · exact hfresh hn (by simp [hg])
    · -- the search saw every edge that a circle would need, and did not come back
      intro hp
      have hpath : ReflTransGen l.waits.Edge c.name a :=
        ReflTransGen.mono (fun _ _ he => (h.awaits_edge he).2) _ _ hp
      have hfound := (Waits.reaches_iff l.waits c.name c.ancestors).2 ⟨a, hmem, hpath⟩
      rw [hw (List.ne_nil_of_mem hmem)] at hfound
      cases hfound

end Coherent

theorem of_awaits_enterAt (hc : cs[i]? = some c) {n d : Name} (h : Awaits (enterAt cs i p) n d) :
    Awaits cs n d ∨ (p.isLive = true ∧ c.phase.isLive = false ∧ (∃ as, c.ancestors = as ++ [n]) ∧
      d = c.name) := by
  obtain ⟨j, c', as, hj, rfl, has, hl⟩ := h
  rcases of_getElem?_enterAt hc hj with ⟨rfl, rfl⟩ | ⟨-, hj⟩
  · cases hlc : c.phase.isLive with
    | true => exact .inl ⟨j, c, as, hc, rfl, has, hlc⟩
    | false => exact .inr ⟨hl, rfl, ⟨as, has⟩, rfl⟩
  · exact .inl ⟨j, c', as, hj, rfl, has, hl⟩

namespace Acyclic

/-- A call that is not admitted in this step adds no edge. -/
theorem enter (h : Acyclic cs) (hc : cs[i]? = some c) (hl : p.isLive = true → c.phase.isLive = true) :
    Acyclic (enterAt cs i p) := by
  intro n hn
  refine h n (TransGen.mono (fun a b hab => ?_) n n hn)
  rcases of_awaits_enterAt hc hab with hab | ⟨hp, hcl, -⟩
  · exact hab
  · rw [hl hp] at hcl
    cases hcl

/-- An admission adds one edge at most, and no path leads back along it. -/
theorem admission (h : Acyclic cs) (hco : Coherent l cs) (hc : cs[i]? = some c)
    (ha : l.admission c.name c.ancestors = .own ∨ l.admission c.name c.ancestors = .join) :
    Acyclic (enterAt cs i p) := by
  rcases List.eq_nil_or_concat c.ancestors with has | ⟨as, a, has⟩
  · intro n hn
    refine h n (TransGen.mono (fun x y hxy => ?_) n n hn)
    rcases of_awaits_enterAt hc hxy with hxy | ⟨-, -, ⟨as, has'⟩, -⟩
    · exact hxy
    · simp [has] at has'
  · refine not_transGen_of_add (a := a) (b := c.name) (fun x y hxy => ?_)
      (hco.no_path_back (by simpa using has) ha) h
    rcases of_awaits_enterAt hc hxy with hxy | ⟨-, -, ⟨as', has'⟩, rfl⟩
    · exact .inl hxy
    · rw [has, List.concat_eq_append] at has'
      exact .inr ⟨by simpa using (List.append_inj' has' rfl).2.symm, rfl⟩

/-- A call that was not admitted yet is nobody's edge. -/
theorem append {ds : List Call} (h : Acyclic cs) (hd : ∀ c ∈ ds, c.phase = .requested) :
    Acyclic (cs ++ ds) := by
  intro n hn
  refine h n (TransGen.mono (fun x y hxy => ?_) n n hn)
  obtain ⟨j, c, as, hj, rfl, has, hl⟩ := hxy
  rw [List.getElem?_append] at hj
  split at hj
  · exact ⟨j, c, as, hj, rfl, has, hl⟩
  · rw [hd c (List.mem_of_getElem? hj)] at hl
    cases hl

end Acyclic

theorem exists_of_mapM_eq_none {α β : Type} {f : α → Option β} {xs : List α} (h : xs.mapM f = none) :
    ∃ x ∈ xs, f x = none := by
  induction xs with
  | nil => simp at h
  | cons x xs ih =>
    cases hx : f x with
    | none => exact ⟨x, by simp, hx⟩
    | some y =>
      have hrest : xs.mapM f = none := by
        cases hm : xs.mapM f with
        | none => rfl
        | some ys => simp [hx, hm] at h
      obtain ⟨z, hz, hfz⟩ := ih hrest
      exact ⟨z, by simp [hz], hfz⟩

namespace Machine

variable {σ : Type} {site : Site σ} {m m' : Machine σ} {jobs : Option Int}

theorem slotsKept_moves (h : SlotsKept jobs m.slots m.calls) (hc : m.calls[i]? = some c)
    (hm : Moves site m i c m') : SlotsKept jobs m'.slots m'.calls := by
  cases hm with
  | acquire hp hs =>
    obtain ⟨free, rfl, hfree⟩ := eq_of_takeSlot hs
    exact h.take hc hfree (by rw [hp]; rfl) rfl
  | leave hp =>
    simp only [enter_slots, enter_calls, giveSlot_slots, giveSlot_calls, noteIf_slots, noteIf_calls]
    exact h.give hc (by rw [hp]; rfl) rfl
  | @spawn p hp =>
    exact (h.append fun _ => Call.phase_of_mem_children).enter (getElem?_append_of_eq_some hc _)
      (by rw [hp]; rfl)
  | plan hp _ _ | queue hp _ _ =>
    simp only [enter_slots, enter_calls, noteIf_slots, noteIf_calls]
    exact h.enter hc (by rw [hp]; rfl)
  | own hp _ | join hp _ | refuse hp _ | inherit hp _ | find hp _ | miss hp _ | record hp | gather hp _
  | proceed hp | abandon hp | skip hp | exhaust hp | launch hp | pass hp _ | fail hp _ | publish hp =>
    exact h.enter hc (by rw [hp]; rfl)

theorem acyclic_moves (h : Acyclic m.calls) (hco : Coherent m.ledger m.calls) (hc : m.calls[i]? = some c)
    (hm : Moves site m i c m') : Acyclic m'.calls := by
  cases hm with
  | own _ ha => exact h.admission hco hc (.inl ha)
  | join _ ha => exact h.admission hco hc (.inr ha)
  | @spawn p hp =>
    refine (h.append fun _ => Call.phase_of_mem_children).enter (getElem?_append_of_eq_some hc _) fun _ => ?_
    rw [hp]
    rfl
  | acquire hp hs =>
    obtain ⟨free, rfl, -⟩ := eq_of_takeSlot hs
    exact h.enter hc fun _ => by rw [hp]; rfl
  | plan hp _ _ | queue hp _ _ =>
    simp only [enter_calls, noteIf_calls]
    exact h.enter hc fun _ => by rw [hp]; rfl
  | leave hp =>
    simp only [enter_calls, giveSlot_calls, noteIf_calls]
    exact h.enter hc fun _ => by rw [hp]; rfl
  | refuse hp _ => exact h.enter hc nofun
  | inherit hp _ | find hp _ | miss hp _ | record hp | gather hp _ | proceed hp | abandon hp | skip hp
  | exhaust hp | launch hp | pass hp _ | fail hp _ | publish hp =>
    exact h.enter hc fun _ => by rw [hp]; rfl

theorem reachable_slotsKept {ok : σ → Prop} (h : Reachable site ok jobs m) :
    SlotsKept jobs m.slots m.calls := by
  induction h with
  | new hm _ =>
    obtain ⟨free, rfl, ⟨hj, hf⟩ | ⟨k, hj, hf⟩⟩ := eq_of_new hm
    · exact .inl ⟨hj, hf⟩
    · exact .inr ⟨k, k + 1, hj, hf, by simp⟩
  | next _ hn _ ih =>
    cases hn with
    | step hs =>
      obtain ⟨c, hc, hm⟩ := step_iff.1 hs
      exact slotsKept_moves ih hc hm
    | start n => exact ih.append (by simp)
    | turn w => exact ih

theorem reachable_acyclic {ok : σ → Prop} (h : Reachable site ok jobs m) : Acyclic m.calls := by
  induction h with
  | new hm _ =>
    obtain ⟨free, rfl, -⟩ := eq_of_new hm
    intro n hn
    obtain ⟨d, ⟨j, c, as, hj, -⟩, -⟩ := TransGen.head'_iff.1 hn
    simp at hj
  | next hr hn _ ih =>
    cases hn with
    | step hs =>
      obtain ⟨c, hc, hm⟩ := step_iff.1 hs
      exact acyclic_moves ih (reachable_coherent hr) hc hm
    | start n => exact ih.append (by simp)
    | turn w => exact ih

/-! ## Who waits for whom -/

/-- Call `i` cannot go on before call `j` has. -/
inductive WaitsFor (m : Machine σ) (i j : CallId) : Prop
  /-- It joined, and `j` owns its name. -/
  | outcome {c c' : Call} : m.calls[i]? = some c → c.phase = .joined → m.calls[j]? = some c' →
      c'.name = c.name → c'.phase.owns = true → WaitsFor m i j
  /-- It started `j` for a dependency. -/
  | dependency {c c' : Call} {p : Plan} {ids : List CallId} : m.calls[i]? = some c →
      c.phase = .waiting p ids → j ∈ ids → m.calls[j]? = some c' → c'.phase.result? = none → WaitsFor m i j
  /-- It has commands to run, and `j` holds one of the job slots, which are all taken. -/
  | slot {c c' : Call} {command : Command} {rest : List Command} : m.calls[i]? = some c →
      c.phase = .queued (command :: rest) → m.slots = some 0 → m.calls[j]? = some c' →
      c'.phase.holdsSlot = true → WaitsFor m i j

/-- A call that waits was admitted, has not returned and holds no slot. -/
theorem WaitsFor.phase {j k : CallId} {c : Call} (h : m.WaitsFor j k) (hc : m.calls[j]? = some c) :
    c.phase.isLive = true ∧ c.phase.holdsSlot = false := by
  cases h with
  | outcome hc' hp | dependency hc' hp | slot hc' hp =>
    rw [hc, Option.some.injEq] at hc'
    subst hc'
    rw [hp]
    exact ⟨rfl, rfl⟩

/-- A wait for a call that waits itself leads to a dependency, or from a joined call to its owner. -/
theorem WaitsFor.edge (hco : Coherent m.ledger m.calls) {i j k : CallId} (h : m.WaitsFor i j)
    (hj : m.WaitsFor j k) :
    ∃ c c', m.calls[i]? = some c ∧ m.calls[j]? = some c' ∧
      (Awaits m.calls c.name c'.name ∨ (c.phase = .joined ∧ c'.phase.owns = true ∧ c'.name = c.name)) := by
  cases h with
  | @outcome c c' hc hp hc' hn ho => exact ⟨c, c', hc, hc', .inr ⟨hp, ho, hn⟩⟩
  | @dependency c c' p ids hc hp hmem hc' hr =>
    obtain ⟨c₀, hc₀, -, has⟩ := hco.child hc hp hmem
    rw [hc', Option.some.injEq] at hc₀
    subst hc₀
    exact ⟨c, c', hc, hc', .inl ⟨j, c', _, hc', rfl, has, (hj.phase hc').1⟩⟩
  | slot hc hp hs hc' hh =>
    rw [(hj.phase hc').2] at hh
    cases hh

theorem WaitsFor.path (hco : Coherent m.ledger m.calls) {i j k : CallId} (h : TransGen m.WaitsFor i j)
    (hj : m.WaitsFor j k) :
    ∃ c c', m.calls[i]? = some c ∧ m.calls[j]? = some c' ∧
      (TransGen (Awaits m.calls) c.name c'.name ∨
        (c.phase = .joined ∧ c'.phase.owns = true ∧ c'.name = c.name)) := by
  induction h generalizing k with
  | single h =>
    obtain ⟨c, c', hc, hc', ha | hjoin⟩ := h.edge hco hj
    · exact ⟨c, c', hc, hc', .inl (.single ha)⟩
    · exact ⟨c, c', hc, hc', .inr hjoin⟩
  | tail _ h ih =>
    obtain ⟨c, c', hc, hc', hpath⟩ := ih h
    obtain ⟨c₁, c'', hc₁, hc'', hedge⟩ := h.edge hco hj
    rw [hc', Option.some.injEq] at hc₁
    subst hc₁
    refine ⟨c, c'', hc, hc'', ?_⟩
    rcases hpath with hpath | ⟨hp, ho, hn⟩ <;> rcases hedge with hedge | ⟨hp', ho', hn'⟩
    · exact .inl (hpath.tail hedge)
    · exact .inl (hn' ▸ hpath)
    · exact .inl (hn ▸ .single hedge)
    · -- an owner has not joined
      rw [hp'] at ho
      cases ho

/-- No call waits for itself, however many calls lie between. -/
theorem not_waitsFor_self (hco : Coherent m.ledger m.calls) (ha : Acyclic m.calls) (i : CallId) :
    ¬ TransGen m.WaitsFor i i := by
  intro h
  obtain ⟨k, hik, -⟩ := TransGen.head'_iff.1 h
  obtain ⟨c, c', hc, hc', hpath⟩ := WaitsFor.path hco h hik
  rw [hc, Option.some.injEq] at hc'
  subst hc'
  rcases hpath with hpath | ⟨hp, ho, -⟩
  · exact ha _ hpath
  · rw [hp] at ho
    cases ho

/-! ## Some call can go on -/

/-- A call that holds a slot waits for nothing. -/
theorem step_of_holdsSlot (hc : m.calls[i]? = some c) (hh : c.phase.holdsSlot = true) :
    ∃ m', m.step site i = some m' := by
  suffices ∃ m', Moves site m i c m' by
    obtain ⟨m', hm⟩ := this
    exact ⟨m', step_iff.2 ⟨c, hc, hm⟩⟩
  cases hp : c.phase with
  | holding commands =>
    cases commands with
    | nil => exact ⟨_, .exhaust hp⟩
    | cons command rest => exact ⟨_, .launch hp⟩
  | running command rest =>
    rcases hr : site.perform c.name command m.world with ⟨_ | f, w⟩
    · exact ⟨_, .pass hp hr⟩
    · exact ⟨_, .fail hp hr⟩
  | leaving o => exact ⟨_, .leave hp⟩
  | _ => simp [hp, Phase.holdsSlot] at hh

/-- A call that has not returned takes a step or waits for another that has not returned. -/
theorem step_or_waitsFor (site : Site σ) (hco : Coherent m.ledger m.calls)
    (hs : SlotsKept jobs m.slots m.calls) (hc : m.calls[i]? = some c) (hr : c.phase.result? = none) :
    (∃ m', m.step site i = some m') ∨
      ∃ j c', m.WaitsFor i j ∧ m.calls[j]? = some c' ∧ c'.phase.result? = none := by
  have hstep : (∃ m', Moves site m i c m') → ∃ m', m.step site i = some m' := by
    rintro ⟨m', hm⟩
    exact ⟨m', step_iff.2 ⟨c, hc, hm⟩⟩
  cases hp : c.phase with
  | requested =>
    refine .inl (hstep ?_)
    cases ha : m.ledger.admission c.name c.ancestors with
    | own => exact ⟨_, .own hp ha⟩
    | join => exact ⟨_, .join hp ha⟩
    | refuse e => exact ⟨_, .refuse hp ha⟩
  | joined =>
    -- an owner that is still at work is the call to wait for
    cases hrec : m.ledger.records.get? c.name with
    | none => exact absurd hrec (hco.admitted hc (by rw [hp]; nofun))
    | some r =>
      cases r with
      | settled o => exact .inl (hstep ⟨_, .inherit (o := o) hp (by simp [Ledger.outcome?, hrec])⟩)
      | building =>
        obtain ⟨j, c', hj, hn, ho⟩ := hco.building_owner hrec
        exact .inr ⟨j, c', .outcome hc hp hj hn ho, hj, Phase.result?_of_owns ho⟩
  | resolving =>
    refine .inl (hstep ?_)
    cases hres : site.resolve m.world c.name with
    | planned pl pattern =>
      by_cases hd : pl.dependencies = []
      · exact ⟨_, .queue hp hres hd⟩
      · exact ⟨_, .plan hp hres hd⟩
    | present => exact ⟨_, .find hp hres⟩
    | missing => exact ⟨_, .miss hp hres⟩
  | planned pl => exact .inl (hstep ⟨_, .record hp⟩)
  | recorded pl => exact .inl (hstep ⟨_, .spawn hp⟩)
  | waiting pl ids =>
    cases hos : ids.mapM m.result? with
    | some os => exact .inl (hstep ⟨_, .gather hp hos⟩)
    | none =>
      obtain ⟨j, hj, hnone⟩ := exists_of_mapM_eq_none hos
      obtain ⟨c', hc', -, -⟩ := hco.child hc hp hj
      have hr' : c'.phase.result? = none := by simpa [result?, hc'] using hnone
      exact .inr ⟨j, c', .dependency hc hp hj hc' hr', hc', hr'⟩
  | gathered pl o =>
    cases o with
    | none => exact .inl (hstep ⟨_, .proceed hp⟩)
    | some f => exact .inl (hstep ⟨_, .abandon hp⟩)
  | queued commands =>
    cases commands with
    | nil => exact .inl (hstep ⟨_, .skip hp⟩)
    | cons command rest =>
      cases ht : m.takeSlot with
      | some m' => exact .inl (hstep ⟨_, .acquire hp ht⟩)
      | none =>
        have hzero : m.slots = some 0 := by
          unfold takeSlot at ht
          split at ht <;> first | assumption | cases ht
        obtain ⟨j, c', hj, hh⟩ := (hzero ▸ hs).exists_holder
        have hr' : c'.phase.result? = none := by
          cases hp' : c'.phase <;> simp_all [Phase.holdsSlot, Phase.result?]
        exact .inr ⟨j, c', .slot hc hp hzero hj hh, hj, hr'⟩
  | holding _ | running _ _ | leaving _ => exact .inl (step_of_holdsSlot hc (by rw [hp]; rfl))
  | closing o => exact .inl (hstep ⟨_, .publish hp⟩)
  | returned o => simp [hp, Phase.result?] at hr

/-- Whom a call waits for is a call. -/
theorem WaitsFor.lt {j : CallId} (h : m.WaitsFor i j) : j < m.calls.length := by
  cases h with
  | outcome _ _ hj | dependency _ _ _ hj | slot _ _ _ hj => exact (List.getElem?_eq_some_iff.1 hj).1

/-- Following the waits comes to an end. -/
theorem wellFounded_waitsFor (hco : Coherent m.ledger m.calls) (ha : Acyclic m.calls) :
    WellFounded fun j i : Fin m.calls.length => m.WaitsFor i j := by
  -- there are finitely many calls, so a transitive relation without loops on them is well founded
  let r : Fin m.calls.length → Fin m.calls.length → Prop := fun j i => TransGen m.WaitsFor i j
  have htrans : IsTrans _ r := ⟨fun _ _ _ hab hbc => TransGen.trans hbc hab⟩
  have hirrefl : Std.Irrefl r := ⟨fun j => not_waitsFor_self hco ha j⟩
  have hwf : WellFounded r := Finite.wellFounded_of_trans_of_irrefl r
  exact Subrelation.wf (fun h => TransGen.single h) hwf

/-- A call that has not returned waits, perhaps through others, for one that can take a step. -/
theorem exists_step (site : Site σ) (hco : Coherent m.ledger m.calls) (hs : SlotsKept jobs m.slots m.calls)
    (ha : Acyclic m.calls) (hc : m.calls[i]? = some c) (hr : c.phase.result? = none) :
    ∃ j m', ReflTransGen m.WaitsFor i j ∧ m.step site j = some m' := by
  obtain ⟨k, rfl⟩ : ∃ k : Fin m.calls.length, k.val = i := ⟨⟨i, (List.getElem?_eq_some_iff.1 hc).1⟩, rfl⟩
  induction k using (wellFounded_waitsFor hco ha).induction generalizing c with
  | h k ih =>
    rcases step_or_waitsFor site hco hs hc hr with ⟨m', hm⟩ | ⟨j, c', hw, hj, hr'⟩
    · exact ⟨k, m', .refl, hm⟩
    · obtain ⟨j', m', hp, hm⟩ := ih ⟨j, hw.lt⟩ hw hr' hj
      exact ⟨j', m', .head hw hp, hm⟩

/-- In every machine that can come about, a call which has not returned can take a step, or waits,
perhaps through others, for a call that can. No call waits for itself, however many others lie
between, and a call that holds a job slot waits for nothing. -/
theorem progress {ok : σ → Prop} (h : Reachable site ok jobs m) :
    (∀ (i : CallId) (c : Call), m.calls[i]? = some c → c.phase.result? = none →
      ∃ j m', ReflTransGen m.WaitsFor i j ∧ m.step site j = some m') ∧
    (∀ i, ¬ TransGen m.WaitsFor i i) ∧
    ∀ (i : CallId) (c : Call), m.calls[i]? = some c → c.phase.holdsSlot = true →
      ∃ m', m.step site i = some m' := by
  have hco := reachable_coherent h
  have ha := reachable_acyclic h
  refine ⟨fun i c hc hr => ?_, not_waitsFor_self hco ha, fun i c hc hh => step_of_holdsSlot hc hh⟩
  exact exists_step site hco (reachable_slotsKept h) ha hc hr

/-- Two names that need each other are requested side by side, and each waits for a request for the
other that is still to be admitted. -/
theorem progress_crossing : ∃ m₀ m c, Machine.new (some 1) () = .ok m₀ ∧
    ((m₀.start (lit "a")).start (lit "b")).play (.fixed .crossing (fun _ => false) fun _ _ => none)
      [0, 1, 0, 1, 0, 1, 0, 1] = some m ∧ m.calls[0]? = some c ∧ c.phase.result? = none ∧
    ∃ j m', ReflTransGen m.WaitsFor 0 j ∧
      m.step (.fixed .crossing (fun _ => false) fun _ _ => none) j = some m' := by
  let site : Site Unit := .fixed .crossing (fun _ => false) fun _ _ => none
  let m₀ : Machine Unit := { slots := some 1, world := () }
  have hnew : Machine.new (some 1) () = .ok m₀ := rfl
  have hroots : Reachable site (fun _ => True) (some 1) ((m₀.start (lit "a")).start (lit "b")) :=
    ((Reachable.new hnew trivial).next (.start _) trivial).next (.start _) trivial
  have hrun : (((m₀.start (lit "a")).start (lit "b")).play site [0, 1, 0, 1, 0, 1, 0, 1]).any
      (fun m => m.calls[0]?.any fun c => c.phase.result?.isNone) = true := by decide +kernel
  obtain ⟨m, hm, hc⟩ := (Option.any_eq_true _ _).1 hrun
  obtain ⟨c, hc, hr⟩ := (Option.any_eq_true _ _).1 hc
  rw [Option.isNone_iff_eq_none] at hr
  exact ⟨m₀, m, c, hnew, hm, hc, hr,
    (progress (hroots.steps ⟨fun _ _ _ => trivial, fun _ _ => trivial⟩ (steps_of_play hm))).1 0 c hc hr⟩

end Machine

end Buildfile.Build
