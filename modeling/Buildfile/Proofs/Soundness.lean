import Buildfile.Proofs.Coherence
import Buildfile.Proofs.Built
/-!
# Every end is accounted for

`Sound` says of a machine that its outcomes are derived from the terms of the build: the record of a
settled name, the answer of a call that has returned, and the commands that were started for a name
are as `Terms.Built` has them, in whatever order the calls took their steps. It also ties the calls
to the rulebook. The ancestors of a call are linked by needs, every name goes back to a request from
outside, and all that a settled name needs was requested as well.

`Machine.reachable_sound` says that this holds in every machine that can come about while the site
keeps to the terms.
-/

namespace Buildfile.Build

open Relation

variable {t : Terms} {recs recs' : Table Name Record} {ran : List (Name × Command)} {cs : List Call}
  {i : CallId} {c : Call} {p : Phase} {l : Ledger} {n : Name}

/-! ## What a phase says -/

/-- All that `n` needs was requested. -/
def Terms.Covered (t : Terms) (recs : Table Name Record) (n : Name) : Prop :=
  ∀ d, t.rulebook.Needs n d → recs.get? d ≠ none

/-- All that `n` needs has succeeded, `passed` are the commands of `n` that did, and `rest` those left. -/
def Terms.Underway (t : Terms) (recs : Table Name Record) (n : Name) (passed rest : List Command) : Prop :=
  ∃ p, t.rulebook.plan? n = some p ∧ t.Gathers n p none ∧ t.Covered recs n ∧ p.commands = passed ++ rest ∧
    ∀ c ∈ passed, t.performs n c none

/-- What the phase of a call for `n` says of the commands that were started for `n`, and of how it can end. -/
def Phase.Sound (t : Terms) (recs : Table Name Record) (ran : List Command) (n : Name) : Phase → Prop
  | requested | joined => True
  | resolving => ran = []
  | planned p | recorded p | waiting p _ => t.rulebook.plan? n = some p ∧ ran = []
  | gathered p o => t.rulebook.plan? n = some p ∧ ran = [] ∧ t.Gathers n p o ∧ t.Covered recs n
  | queued commands => ran = [] ∧ t.Underway recs n [] commands
  | holding commands => t.Underway recs n ran commands
  | running command rest => ∃ passed, ran = passed ++ [command] ∧ t.Underway recs n passed (command :: rest)
  | leaving o | closing o => t.Built n o ran ∧ t.Covered recs n
  | returned o => t.Answers n o

theorem Phase.Sound.mono (h : ∀ k, recs.get? k ≠ none → recs'.get? k ≠ none) {ran : List Command}
    (hp : p.Sound t recs ran n) : p.Sound t recs' ran n := by
  have hcov : t.Covered recs n → t.Covered recs' n := fun hc d hd => h d (hc d hd)
  have hund : ∀ {passed rest}, t.Underway recs n passed rest → t.Underway recs' n passed rest := by
    rintro passed rest ⟨pl, hpl, hg, hc, hcs⟩
    exact ⟨pl, hpl, hg, hcov hc, hcs⟩
  cases p with
  | gathered pl o => exact ⟨hp.1, hp.2.1, hp.2.2.1, hcov hp.2.2.2⟩
  | queued commands => exact ⟨hp.1, hund hp.2⟩
  | holding commands => exact hund hp
  | running command rest =>
    obtain ⟨passed, hran, hu⟩ := hp
    exact ⟨passed, hran, hund hu⟩
  | leaving o | closing o => exact ⟨hp.1, hcov hp.2⟩
  | _ => exact hp

/-- What a call knows that does not own its name does not depend on the commands that were started. -/
theorem Phase.Sound.of_guest (ho : p.owns = false) {ran ran' : List Command} (hp : p.Sound t recs ran n) :
    p.Sound t recs ran' n := by
  cases p <;> first | exact hp | cases ho

namespace Terms

theorem covered_of_plan?_eq_none (hp : t.rulebook.plan? n = none) : t.Covered recs n :=
  fun d hd => absurd hd (Rulebook.not_needs_of_plan?_eq_none hp d)

namespace Underway

variable {passed rest : List Command}

/-- A command passes. -/
theorem pass {command : Command} (h : t.Underway recs n passed (command :: rest))
    (hc : t.performs n command none) : t.Underway recs n (passed ++ [command]) rest := by
  obtain ⟨p, hp, hg, hcov, hcs, hpassed⟩ := h
  refine ⟨p, hp, hg, hcov, by rw [hcs]; simp, fun c' hc' => ?_⟩
  rcases List.mem_append.1 hc' with hc' | hc'
  · exact hpassed c' hc'
  · rw [List.mem_singleton] at hc'
    exact hc' ▸ hc

/-- No command is left. -/
theorem built (h : t.Underway recs n passed []) : t.Built n none passed ∧ t.Covered recs n := by
  obtain ⟨p, hp, hg, hcov, hcs, hpassed⟩ := h
  refine ⟨hg.built hp ?_, hcov⟩
  have hruns := Runs.append hpassed Runs.nil
  rw [List.append_nil] at hcs hruns
  rw [hcs]
  exact hruns

/-- A command fails. -/
theorem built_of_fail {command : Command} {f : Failure} (h : t.Underway recs n passed (command :: rest))
    (hc : t.performs n command (some f)) : t.Built n (some f) (passed ++ [command]) ∧ t.Covered recs n := by
  obtain ⟨p, hp, hg, hcov, hcs, hpassed⟩ := h
  refine ⟨hg.built hp ?_, hcov⟩
  rw [hcs]
  exact Runs.append hpassed (.fail hc)

end Underway

end Terms

/-! ## The invariant -/

/-- The outcomes in a machine are derived from the terms, and its calls go along needs. -/
structure Sound (t : Terms) (recs : Table Name Record) (ran : List (Name × Command)) (cs : List Call) :
    Prop where
  linked {i : CallId} {c : Call} : cs[i]? = some c → (c.ancestors ++ [c.name]).IsChain t.rulebook.Needs
  from_root {i : CallId} {c : Call} : cs[i]? = some c →
    ∃ (j : CallId) (r : Call), cs[j]? = some r ∧ r.ancestors = [] ∧
      ReflTransGen t.rulebook.Needs r.name c.name
  phase {i : CallId} {c : Call} : cs[i]? = some c → c.phase.Sound t recs (commandsOf ran c.name) c.name
  settled {n : Name} {o : Outcome} : recs.get? n = some (.settled o) →
    t.Built n o (commandsOf ran n) ∧ t.Covered recs n
  idle {n : Name} : recs.get? n = none → commandsOf ran n = []
  asked {n : Name} : recs.get? n ≠ none → ∃ (i : CallId) (c : Call), cs[i]? = some c ∧ c.name = n

namespace Sound

theorem phase_eq (h : Sound t recs ran cs) (hc : cs[i]? = some c) (hp : c.phase = p) :
    p.Sound t recs (commandsOf ran c.name) c.name := hp ▸ h.phase hc

/-- A call moves on, and commands may be started for a name that is being built. -/
theorem enter_of {ran' : List (Name × Command)} (h : Sound t recs ran cs) (hc : cs[i]? = some c)
    (hother : ∀ j c', j ≠ i → cs[j]? = some c' → c'.phase.Sound t recs (commandsOf ran' c'.name) c'.name)
    (hran : ∀ k, recs.get? k ≠ some .building → commandsOf ran' k = commandsOf ran k)
    (hp : p.Sound t recs (commandsOf ran' c.name) c.name) : Sound t recs ran' (enterAt cs i p) where
  linked {j c'} hj := by
    rcases of_getElem?_enterAt hc hj with ⟨rfl, rfl⟩ | ⟨-, hj⟩
    · exact (h.linked hc : (c.ancestors ++ [c.name]).IsChain _)
    · exact h.linked hj
  from_root {j c'} hj := by
    -- names and ancestors stay, so the old root still stands at its place
    have hroot : ∀ c₀ : Call, (∃ j : CallId, cs[j]? = some c₀) → c₀.name = c'.name →
        ∃ (j : CallId) (r : Call), (enterAt cs i p)[j]? = some r ∧ r.ancestors = [] ∧
          ReflTransGen t.rulebook.Needs r.name c'.name := by
      rintro c₀ ⟨j, hj⟩ hn
      obtain ⟨k, r, hk, hr, hpath⟩ := h.from_root hj
      obtain ⟨r', hk', hn', hr'⟩ := continues_enterAt hc p k r hk
      exact ⟨k, r', hk', hr'.trans hr, hn' ▸ hn ▸ hpath⟩
    rcases of_getElem?_enterAt hc hj with ⟨rfl, rfl⟩ | ⟨-, hj⟩
    · exact hroot c ⟨_, hc⟩ rfl
    · exact hroot c' ⟨_, hj⟩ rfl
  phase {j c'} hj := by
    rcases of_getElem?_enterAt hc hj with ⟨rfl, rfl⟩ | ⟨hji, hj⟩
    · exact hp
    · exact hother j c' hji hj
  settled {n o} hn := by
    rw [hran n (by simp [hn])]
    exact h.settled hn
  idle {n} hn := by
    rw [hran n (by simp [hn])]
    exact h.idle hn
  asked {n} hn := by
    obtain ⟨j, c', hj, rfl⟩ := h.asked hn
    obtain ⟨c'', hj', hn', -⟩ := continues_enterAt hc p j c' hj
    exact ⟨j, c'', hj', hn'⟩

/-- A call moves on, to a phase that says what is the case. -/
theorem enter (h : Sound t recs ran cs) (hc : cs[i]? = some c)
    (hp : p.Sound t recs (commandsOf ran c.name) c.name) : Sound t recs ran (enterAt cs i p) :=
  h.enter_of hc (fun _ _ _ hj => h.phase hj) (fun _ _ => rfl) hp

/-- A record is made of the name of a call, or changed. -/
theorem register (h : Sound t recs ran cs) (hc : cs[i]? = some c)
    (hrec : ∀ k, k ≠ c.name → recs'.get? k = recs.get? k) (hsome : recs'.get? c.name ≠ none)
    (hsettled : ∀ o, recs'.get? c.name = some (.settled o) →
      t.Built c.name o (commandsOf ran c.name) ∧ t.Covered recs c.name) : Sound t recs' ran cs := by
  -- records are only ever added or changed, so what was requested stays requested
  have hmono : ∀ k, recs.get? k ≠ none → recs'.get? k ≠ none := by
    intro k hk
    by_cases hkc : k = c.name
    · exact hkc ▸ hsome
    · rwa [hrec k hkc]
  refine ⟨h.linked, h.from_root, fun hj => (h.phase hj).mono hmono, ?_, ?_, ?_⟩
  · intro k o hk
    by_cases hkc : k = c.name
    · subst hkc
      obtain ⟨hb, hcov⟩ := hsettled o hk
      exact ⟨hb, fun d hd => hmono d (hcov d hd)⟩
    · rw [hrec k hkc] at hk
      obtain ⟨hb, hcov⟩ := h.settled hk
      exact ⟨hb, fun d hd => hmono d (hcov d hd)⟩
  · intro k hk
    by_cases hkc : k = c.name
    · exact absurd hk (hkc ▸ hsome)
    · rw [hrec k hkc] at hk
      exact h.idle hk
  · intro k hk
    by_cases hkc : k = c.name
    · exact ⟨i, c, hc, hkc.symm⟩
    · rw [hrec k hkc] at hk
      exact h.asked hk

/-- The owner of a name starts a command. -/
theorem launch (h : Sound t l.records ran cs) (hco : Coherent l cs) (hc : cs[i]? = some c) {command : Command}
    {rest : List Command} (hp : c.phase = .holding (command :: rest)) :
    Sound t l.records (ran ++ [(c.name, command)]) (enterAt cs i (.running command rest)) := by
  have ho : c.phase.owns = true := by rw [hp]; rfl
  refine h.enter_of hc (fun j c' hji hj => ?_) (fun k hk => ?_) ?_
  · by_cases hn : c'.name = c.name
    · -- another call for the name does not own it
      cases ho' : c'.phase.owns with
      | true => exact absurd (hco.owner_unique hj hc ho' ho hn) hji
      | false => exact (h.phase hj).of_guest ho'
    · rw [commandsOf_append_other ran hn]
      exact h.phase hj
  · refine commandsOf_append_other ran ?_ command
    rintro rfl
    exact hk (hco.owner_building hc ho)
  · rw [commandsOf_append_self]
    exact ⟨_, rfl, h.phase_eq hc hp⟩

/-- Calls are added that wait for their admission. -/
theorem append {ds : List Call} (h : Sound t recs ran cs)
    (hd : ∀ c ∈ ds, c.phase = .requested ∧ (c.ancestors ++ [c.name]).IsChain t.rulebook.Needs ∧
      ∃ (j : CallId) (r : Call), (cs ++ ds)[j]? = some r ∧ r.ancestors = [] ∧
        ReflTransGen t.rulebook.Needs r.name c.name) : Sound t recs ran (cs ++ ds) := by
  have hcases : ∀ {j : CallId} {c : Call}, (cs ++ ds)[j]? = some c → cs[j]? = some c ∨ c ∈ ds := by
    intro j c hj
    rw [List.getElem?_append] at hj
    split at hj
    · exact .inl hj
    · exact .inr (List.mem_of_getElem? hj)
  refine ⟨?_, ?_, ?_, h.settled, h.idle, ?_⟩
  · intro j c hj
    rcases hcases hj with hj | hj
    · exact h.linked hj
    · exact (hd c hj).2.1
  · intro j c hj
    rcases hcases hj with hj | hj
    · obtain ⟨k, r, hk, hr⟩ := h.from_root hj
      exact ⟨k, r, getElem?_append_of_eq_some hk ds, hr⟩
    · exact (hd c hj).2.2
  · intro j c hj
    rcases hcases hj with hj | hj
    · exact h.phase hj
    · rw [(hd c hj).1]
      trivial
  · intro n hn
    obtain ⟨j, c, hj, hc⟩ := h.asked hn
    exact ⟨j, c, getElem?_append_of_eq_some hj ds, hc⟩

/-- A name is requested from outside. -/
theorem request (h : Sound t recs ran cs) (n : Name) :
    Sound t recs ran (cs ++ [{ name := n, ancestors := [], phase := .requested }]) := by
  refine h.append fun c hc => ?_
  rw [List.mem_singleton] at hc
  subst hc
  exact ⟨rfl, List.isChain_singleton n, cs.length, _, List.getElem?_concat_length, rfl, .refl⟩

/-- An owner starts the calls for its dependencies. -/
theorem spawn (h : Sound t recs ran cs) {pl : Plan} (hc : cs[i]? = some c) (hp : c.phase = .recorded pl)
    (ids : List CallId) :
    Sound t recs ran (enterAt (cs ++ pl.dependencies.map c.child) i (.waiting pl ids)) := by
  obtain ⟨hplan, hran⟩ : t.rulebook.plan? c.name = some pl ∧ commandsOf ran c.name = [] := h.phase_eq hc hp
  refine (h.append fun c' hc' => ?_).enter (getElem?_append_of_eq_some hc _) ⟨hplan, hran⟩
  obtain ⟨d, hd, rfl⟩ := List.mem_map.1 hc'
  have hneeds : t.rulebook.Needs c.name d := Rulebook.needs_of_plan? hplan hd
  refine ⟨rfl, ?_, ?_⟩
  · have hlinked : (c.ancestors ++ [c.name]).IsChain t.rulebook.Needs := h.linked hc
    exact hlinked.append (List.isChain_singleton d) (by simpa [Call.child] using hneeds)
  · obtain ⟨k, r, hk, hr, hpath⟩ := h.from_root hc
    exact ⟨k, r, getElem?_append_of_eq_some hk _, hr, hpath.tail hneeds⟩

/-- What is recorded as waited for is needed. -/
theorem needs_of_edge (h : Sound t l.records ran cs) (hco : Coherent l cs) {a d : Name}
    (he : l.waits.Edge a d) : t.rulebook.Needs a d := by
  unfold Waits.Edge at he
  cases hw : l.waits.get? a with
  | none => simp [hw] at he
  | some ds =>
    rw [hw, Option.getD_some] at he
    obtain ⟨j, c, hj, rfl, ha⟩ := hco.waits_owner hw
    have hphase := h.phase hj
    cases hp : c.phase with
    | recorded pl | waiting pl _ | gathered pl _ =>
      rw [hp] at ha hphase
      cases ha
      exact Rulebook.needs_of_plan? hphase.1 he
    | _ => simp [hp, Phase.awaited?] at ha

/-- A request is refused only for a cycle. -/
theorem cycle_of_refuse (h : Sound t l.records ran cs) (hco : Coherent l cs) (hc : cs[i]? = some c)
    {e : BuildError} (hr : l.admission c.name c.ancestors = .refuse e) :
    e = .circular c.name (c.ancestors ++ [c.name]) ∧ t.rulebook.Cycle c.name (c.ancestors ++ [c.name]) := by
  obtain ⟨rfl, hwhy⟩ := Ledger.eq_of_refuse hr
  refine ⟨rfl, ⟨by simp, h.linked hc, ?_⟩⟩
  rw [List.dropLast_concat]
  rcases hwhy with hmem | ⟨-, hw⟩
  · exact ⟨c.name, hmem, .refl⟩
  · obtain ⟨a, ha, hpath⟩ := (Waits.reaches_iff _ _ _).1 hw
    exact ⟨a, ha, ReflTransGen.mono (fun _ _ he => h.needs_of_edge hco he) _ _ hpath⟩

/-- Once the calls that an owner waits for have returned, all that it needs was requested, and the outcomes of
these calls are answers. -/
theorem gathers (h : Sound t l.records ran cs) (hco : Coherent l cs) (hc : cs[i]? = some c) {pl : Plan}
    {ids : List CallId} {os : List Outcome} (hp : c.phase = .waiting pl ids)
    (hos : List.Forall₂ (fun j o => ∃ c' : Call, cs[j]? = some c' ∧ c'.phase = .returned o) ids os) :
    t.Gathers c.name pl (blame c.name (pl.dependencies.zip os)) ∧ t.Covered l.records c.name := by
  obtain ⟨hplan, -⟩ : t.rulebook.plan? c.name = some pl ∧ _ := h.phase_eq hc hp
  obtain ⟨hfst, hzip⟩ := hco.zip_ended hc hp hos
  refine ⟨⟨_, hfst, ?_, rfl⟩, fun d hd => ?_⟩
  · rintro ⟨d, o⟩ hmem
    obtain ⟨j, c', hj, rfl, hph⟩ := hzip _ hmem
    exact h.phase_eq hj hph
  · rw [Rulebook.needs_iff_of_plan? hplan, ← hfst] at hd
    obtain ⟨⟨d, o⟩, hmem, rfl⟩ := List.mem_map.1 hd
    obtain ⟨j, c', hj, rfl, hph⟩ := hzip _ hmem
    exact hco.admitted hj (by rw [hph]; nofun)

end Sound

namespace Machine

variable {σ : Type} {site : Site σ} {m m' : Machine σ}

theorem sound_moves (h : Sound t m.ledger.records m.ran m.calls) (hco : Coherent m.ledger m.calls)
    (ht : t.Hold site m.world) (hc : m.calls[i]? = some c) (hm : Moves site m i c m') :
    Sound t m'.ledger.records m'.ran m'.calls := by
  obtain ⟨⟨isFile, hfile, hres⟩, hperf⟩ := ht
  cases hm with
  | own hp ha =>
    have hnone := (Ledger.get?_of_own ha).2
    have hreg : Sound t (m.ledger.enroll c.name).records m.ran m.calls := by
      refine h.register hc (fun k hk => ?_) ?_ fun o ho => ?_
      · rw [Ledger.records_get?_enroll, if_neg hk]
      · simp [Ledger.records_get?_enroll]
      · simp [Ledger.records_get?_enroll] at ho
    exact hreg.enter hc (h.idle hnone)
  | join hp ha => exact h.enter hc trivial
  | refuse hp ha =>
    obtain ⟨rfl, hcycle⟩ := h.cycle_of_refuse hco hc ha
    exact h.enter hc (.inl ⟨_, hcycle, rfl⟩)
  | inherit hp ho =>
    refine h.enter hc (.inr ⟨_, (h.settled ?_).1⟩)
    unfold Ledger.outcome? at ho
    split at ho <;> cases ho
    assumption
  | @plan p pattern hp hr hd =>
    simp only [enter_ledger, enter_calls, enter_ran, noteIf_ledger, noteIf_calls, noteIf_ran]
    exact h.enter hc ⟨Rulebook.plan?_of_resolve (hres c.name ▸ hr), h.phase_eq hc hp⟩
  | @queue p pattern hp hr hd =>
    simp only [enter_ledger, enter_calls, enter_ran, noteIf_ledger, noteIf_calls, noteIf_ran]
    have hplan : t.rulebook.plan? c.name = some p := Rulebook.plan?_of_resolve (hres c.name ▸ hr)
    refine h.enter hc ⟨h.phase_eq hc hp, p, hplan, ⟨[], by simp [hd], by simp, rfl⟩, ?_, rfl, by simp⟩
    intro d hneeds
    rw [Rulebook.needs_iff_of_plan? hplan, hd] at hneeds
    cases hneeds
  | find hp hr =>
    obtain ⟨hplan, hf⟩ := Rulebook.of_resolve_present (hres c.name ▸ hr)
    have hran : commandsOf m.ran c.name = [] := h.phase_eq hc hp
    refine h.enter hc ⟨?_, Terms.covered_of_plan?_eq_none hplan⟩
    rw [hran]
    exact .present hplan (hf ▸ hfile c.name)
  | miss hp hr =>
    obtain ⟨hplan, hf⟩ := Rulebook.of_resolve_missing (hres c.name ▸ hr)
    have hran : commandsOf m.ran c.name = [] := h.phase_eq hc hp
    refine h.enter hc ⟨?_, Terms.covered_of_plan?_eq_none hplan⟩
    rw [hran]
    exact .missing hplan (hf ▸ hfile c.name)
  | @record p hp =>
    have hphase : t.rulebook.plan? c.name = some p ∧ commandsOf m.ran c.name = [] := h.phase_eq hc hp
    exact h.enter hc hphase
  | spawn hp => exact h.spawn hc hp _
  | gather hp hos =>
    obtain ⟨hplan, hran⟩ : t.rulebook.plan? c.name = some _ ∧ commandsOf m.ran c.name = [] := h.phase_eq hc hp
    exact h.enter hc ⟨hplan, hran, h.gathers hco hc hp (forall₂_of_gather hos)⟩
  | proceed hp =>
    obtain ⟨hplan, hran, hg, hcov⟩ := h.phase_eq hc hp
    exact h.enter hc ⟨hran, _, hplan, hg, hcov, rfl, by simp⟩
  | abandon hp =>
    obtain ⟨hplan, hran, hg, hcov⟩ := h.phase_eq hc hp
    exact h.enter hc ⟨hg.built hplan ⟨rfl, hran⟩, hcov⟩
  | skip hp =>
    obtain ⟨hran, hu⟩ := h.phase_eq hc hp
    refine h.enter hc ?_
    rw [hran]
    exact hu.built
  | acquire hp hs =>
    obtain ⟨free, rfl, -⟩ := eq_of_takeSlot hs
    obtain ⟨hran, hu⟩ := h.phase_eq hc hp
    exact h.enter hc (hran ▸ hu)
  | exhaust hp => exact h.enter hc (Terms.Underway.built (h.phase_eq hc hp))
  | launch hp => exact h.launch hco hc hp
  | @pass command rest w hp hr =>
    obtain ⟨passed, hran, hu⟩ := h.phase_eq hc hp
    have hpass : t.performs c.name command none := by simpa [hr] using hperf c.name command
    exact h.enter hc (hran ▸ hu.pass hpass)
  | @fail command rest f w hp hr =>
    obtain ⟨passed, hran, hu⟩ := h.phase_eq hc hp
    have hfail : t.performs c.name command (some f) := by simpa [hr] using hperf c.name command
    exact h.enter hc (hran ▸ hu.built_of_fail hfail)
  | @leave o hp =>
    simp only [enter_ledger, enter_calls, enter_ran, giveSlot_ledger, giveSlot_calls, giveSlot_ran,
      noteIf_ledger, noteIf_calls, noteIf_ran]
    have hphase : t.Built c.name o (commandsOf m.ran c.name) ∧ t.Covered m.ledger.records c.name :=
      h.phase_eq hc hp
    exact h.enter hc hphase
  | @publish o hp =>
    obtain ⟨hbuilt, hcov⟩ := h.phase_eq hc hp
    -- the record is published first, while the call still says that its name is built
    have hreg : Sound t (m.ledger.settle c.name o).records m.ran m.calls := by
      refine h.register hc (fun k hk => ?_) ?_ fun o' ho => ?_
      · rw [Ledger.records_get?_settle, if_neg hk]
      · simp [Ledger.records_get?_settle]
      · rw [Ledger.records_get?_settle, if_pos rfl] at ho
        cases ho
        exact ⟨hbuilt, hcov⟩
    exact hreg.enter hc (.inr ⟨_, hbuilt⟩)

/-- In every machine that can come about while the site keeps to the terms, every end is accounted for. -/
theorem reachable_sound {jobs : Option Int} (h : Reachable site (t.Hold site) jobs m) :
    Sound t m.ledger.records m.ran m.calls ∧ t.Hold site m.world := by
  induction h with
  | new hm hw =>
    obtain ⟨free, rfl, -⟩ := eq_of_new hm
    exact ⟨⟨by simp, by simp, by simp, by simp, by simp [commandsOf], by simp⟩, hw⟩
  | next hr hn hw ih =>
    refine ⟨?_, hw⟩
    cases hn with
    | step hs =>
      obtain ⟨c, hc, hm⟩ := step_iff.1 hs
      exact sound_moves ih.1 (reachable_coherent hr) ih.2 hc hm
    | start n => exact ih.1.request n
    | turn w => exact ih.1

/-- The name of every call goes back to one that was requested from outside. -/
theorem exists_root (h : Sound t m.ledger.records m.ran m.calls) (hc : m.calls[i]? = some c) :
    ∃ r ∈ m.roots, ReflTransGen t.rulebook.Needs r c.name := by
  obtain ⟨j, r, hj, hr, hpath⟩ := h.from_root hc
  exact ⟨r.name, mem_roots.2 ⟨j, r, hj, hr, rfl⟩, hpath⟩

/-- These terms fix a rulebook, and how commands may end. -/
def following (b : Rulebook) (performs : Name → Command → Outcome → Prop) : Terms where
  rulebook := b
  isFile _ _ := True
  performs := performs

theorem sound_of_follows {b : Rulebook} {jobs : Option Int} (performs : Name → Command → Outcome → Prop)
    (h : Reachable site (site.Follows b) jobs m)
    (hperf : ∀ w, site.Follows b w → ∀ n c, performs n c (site.perform n c w).1) :
    Sound (following b performs) m.ledger.records m.ran m.calls := by
  have hhold : ∀ w, site.Follows b w → (following b performs).Hold site w := by
    rintro w hw
    obtain ⟨isFile, hres⟩ := id hw
    exact ⟨⟨isFile, fun _ => trivial, hres⟩, hperf w hw⟩
  exact (reachable_sound (h.mono hhold)).1

end Machine

end Buildfile.Build
