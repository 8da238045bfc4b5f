import Buildfile.Proofs.Succession
/-!
# What stands in a machine has happened

`Attested` ties a machine to the events of its course. An owner works by the resolution that its name
was looked up with; commands are started in the order of that plan, each after the one before has
succeeded; what an owner gathers from its dependencies is on record of them; and a call that has
returned was refused or passes on the record of its name. `Course.attested` says that this holds at
every moment of a course, whatever the site does and however the rules and files change.

The records are named here where `Sound` derives outcomes from the rules, so this does not need the
rules to stay as they are.
-/

namespace Buildfile.Build

variable {F F' : Event → Prop} {recs recs' : Table Name Record} {ran : List (Name × Command)} {cs : List Call}
  {i j : CallId} {c : Call} {p : Phase} {n : Name} {o : Outcome} {l : Ledger}

/-- Call `i` for `n` has this answer: it is on record, or the call was refused. -/
def Answered (F : Event → Prop) (recs : Table Name Record) (i : CallId) (n : Name) (o : Outcome) : Prop :=
  recs.get? n = some (.settled o) ∨ ∃ e, o = some (.error e) ∧ F (.refuse i n e)

/-- `n` was looked up and is built by this plan. -/
def Planned (F : Event → Prop) (n : Name) (p : Plan) : Prop := ∃ pattern, F (.lookUp n (.planned p pattern))

/-- The dependencies of `n` have answers of which this is the blame. -/
def Gathered (F : Event → Prop) (recs : Table Name Record) (n : Name) (p : Plan) (o : Outcome) : Prop :=
  ∃ os : List (Name × Outcome), os.map (·.1) = p.dependencies ∧ (∀ a ∈ os, ∃ j, Answered F recs j a.1 a.2) ∧
    blame n os = o

/-- The dependencies of `n` are done, the commands `passed` have succeeded one after the other, and
`rest` are left. -/
structure Underway (F : Event → Prop) (recs : Table Name Record) (n : Name) (passed rest : List Command) :
    Prop where
  plan : ∃ p, Planned F n p ∧ (∀ d ∈ p.dependencies, recs.get? d = some (.settled none)) ∧
    p.commands = passed ++ rest
  passed {started : List Command} : started ≠ [] → started <+: passed → F (.finish n started none)

/-- The owner of `n` ends with this outcome, after it has started these commands. -/
inductive Concluded (F : Event → Prop) (recs : Table Name Record) (n : Name) : Outcome → List Command → Prop
  | present : F (.lookUp n .present) → Concluded F recs n none []
  | missing : F (.lookUp n .missing) → Concluded F recs n (some (.error (.unknownTarget n))) []
  | blamed {p : Plan} {f : Failure} : Planned F n p → Gathered F recs n p (some f) →
      Concluded F recs n (some f) []
  | done {ran : List Command} : Underway F recs n ran [] → Concluded F recs n none ran
  | broken {passed rest : List Command} {command : Command} {f : Failure} :
      Underway F recs n passed (command :: rest) → F (.finish n (passed ++ [command]) (some f)) →
      Concluded F recs n (some f) (passed ++ [command])

/-- What the phase of call `i` for `n` says of the events, of the records, and of the commands that were
started for `n`. -/
def Phase.Attested (F : Event → Prop) (recs : Table Name Record) (i : CallId) (n : Name) (ran : List Command) :
    Phase → Prop
  | requested | joined => True
  | resolving => ran = []
  | planned p | recorded p | waiting p _ => Planned F n p ∧ ran = []
  | gathered p o => Planned F n p ∧ ran = [] ∧ Gathered F recs n p o
  | queued commands => ran = [] ∧ Underway F recs n [] commands
  | holding commands => Underway F recs n ran commands
  | running command rest => ∃ passed, ran = passed ++ [command] ∧ Underway F recs n passed (command :: rest)
  | leaving o | closing o => Concluded F recs n o ran
  | returned o => Answered F recs i n o

/-- The phases of the calls, the settled records and the started commands have come about by events. -/
structure Attested (F : Event → Prop) (recs : Table Name Record) (ran : List (Name × Command))
    (cs : List Call) : Prop where
  phase {i : CallId} {c : Call} : cs[i]? = some c →
    c.phase.Attested F recs i c.name (commandsOf ran c.name)
  settled {n : Name} {o : Outcome} : recs.get? n = some (.settled o) →
    Concluded F recs n o (commandsOf ran n)
  idle {n : Name} : recs.get? n = none → commandsOf ran n = []

/-! ## More events, more records -/

section Mono

variable (hF : ∀ e, F e → F' e) (hrec : ∀ n o, recs.get? n = some (.settled o) → recs'.get? n = some (.settled o))

include hF hrec

theorem Answered.mono (h : Answered F recs i n o) : Answered F' recs' i n o := by
  rcases h with h | ⟨e, ho, he⟩
  · exact .inl (hrec n o h)
  · exact .inr ⟨e, ho, hF _ he⟩

theorem Gathered.mono {p : Plan} (h : Gathered F recs n p o) : Gathered F' recs' n p o := by
  obtain ⟨os, hos, ha, hb⟩ := h
  refine ⟨os, hos, fun a hm => ?_, hb⟩
  obtain ⟨j, hj⟩ := ha a hm
  exact ⟨j, hj.mono hF hrec⟩

omit hrec in
theorem Planned.mono {p : Plan} (h : Planned F n p) : Planned F' n p := by
  obtain ⟨pattern, h⟩ := h
  exact ⟨pattern, hF _ h⟩

theorem Underway.mono {passed rest : List Command} (h : Underway F recs n passed rest) :
    Underway F' recs' n passed rest where
  plan := by
    obtain ⟨p, hp, hd, hcs⟩ := h.plan
    exact ⟨p, hp.mono hF, fun d hm => hrec d none (hd d hm), hcs⟩
  passed hne hpre := hF _ (h.passed hne hpre)

theorem Concluded.mono {ran : List Command} (h : Concluded F recs n o ran) : Concluded F' recs' n o ran := by
  cases h with
  | present h => exact .present (hF _ h)
  | missing h => exact .missing (hF _ h)
  | blamed hp hg => exact .blamed (hp.mono hF) (hg.mono hF hrec)
  | done hu => exact .done (hu.mono hF hrec)
  | broken hu he => exact .broken (hu.mono hF hrec) (hF _ he)

theorem Phase.Attested.mono {ran : List Command} (h : p.Attested F recs i n ran) :
    p.Attested F' recs' i n ran := by
  cases p with
  | requested | joined => trivial
  | resolving => exact h
  | planned | recorded | waiting => exact ⟨h.1.mono hF, h.2⟩
  | gathered => exact ⟨h.1.mono hF, h.2.1, h.2.2.mono hF hrec⟩
  | queued => exact ⟨h.1, h.2.mono hF hrec⟩
  | holding => exact Underway.mono hF hrec h
  | running =>
    obtain ⟨passed, hran, hu⟩ := h
    exact ⟨passed, hran, hu.mono hF hrec⟩
  | leaving | closing => exact Concluded.mono hF hrec h
  | returned => exact Answered.mono hF hrec h

end Mono

/-- What a call says that does not own its name does not depend on the commands that were started. -/
theorem Phase.Attested.of_guest (ho : p.owns = false) {ran ran' : List Command}
    (h : p.Attested F recs i n ran) : p.Attested F recs i n ran' := by
  cases p <;> first | exact h | cases ho

theorem Attested.mono (h : Attested F recs ran cs) (hF : ∀ e, F e → F' e) : Attested F' recs ran cs where
  phase hc := (h.phase hc).mono hF fun _ _ => id
  settled hn := (h.settled hn).mono hF fun _ _ => id
  idle := h.idle

/-! ## Commands one after the other -/

namespace Underway

variable {passed rest : List Command} {command : Command}

theorem of_planned {p : Plan} (hp : Planned F n p)
    (hd : ∀ d ∈ p.dependencies, recs.get? d = some (.settled none)) : Underway F recs n [] p.commands where
  plan := ⟨p, hp, hd, rfl⟩
  passed hne hpre := absurd (List.prefix_nil.1 hpre) hne

/-- A command has succeeded. -/
theorem pass (h : Underway F recs n passed (command :: rest)) (he : F (.finish n (passed ++ [command]) none)) :
    Underway F recs n (passed ++ [command]) rest where
  plan := by
    obtain ⟨p, hp, hd, hcs⟩ := h.plan
    exact ⟨p, hp, hd, by rw [hcs, List.append_assoc, List.singleton_append]⟩
  passed {started} hne hpre := by
    rcases List.prefix_concat_iff.1 hpre with rfl | hpre
    · exact he
    · exact h.passed hne hpre

/-- The commands that have succeeded are the first of those of the plan. -/
theorem prefix_plan (h : Underway F recs n passed rest) : ∃ p, Planned F n p ∧ passed <+: p.commands := by
  obtain ⟨p, hp, -, hcs⟩ := h.plan
  exact ⟨p, hp, rest, hcs.symm⟩

/-- One more command may have been started. -/
theorem prefix_plan_start (h : Underway F recs n passed (command :: rest)) :
    ∃ p, Planned F n p ∧ passed ++ [command] <+: p.commands := by
  obtain ⟨p, hp, -, hcs⟩ := h.plan
  exact ⟨p, hp, rest, by rw [hcs, List.append_assoc, List.singleton_append]⟩

end Underway

/-- Nobody is to blame exactly if all dependencies are done. -/
theorem Gathered.done {p : Plan} (h : Gathered F recs n p none) :
    ∀ d ∈ p.dependencies, recs.get? d = some (.settled none) := by
  obtain ⟨os, hos, ha, hb⟩ := h
  intro d hd
  rw [← hos, List.mem_map] at hd
  obtain ⟨a, hm, rfl⟩ := hd
  have hnone := (blame_eq_none_iff n os).1 hb a hm
  obtain ⟨j, hrec | ⟨e, he, -⟩⟩ := ha a hm
  · rw [hrec, hnone]
  · rw [hnone] at he
    cases he

theorem Concluded.prefix_plan {ran : List Command} (h : Concluded F recs n o ran) :
    ran = [] ∨ ∃ p, Planned F n p ∧ ran <+: p.commands := by
  cases h with
  | present | missing | blamed => exact .inl rfl
  | done hu => exact .inr hu.prefix_plan
  | broken hu => exact .inr hu.prefix_plan_start

/-- An owner starts the first commands of the plan of its name. -/
theorem Phase.Attested.prefix_plan {ran : List Command} (h : p.Attested F recs i n ran) (ho : p.owns = true) :
    ran = [] ∨ ∃ p, Planned F n p ∧ ran <+: p.commands := by
  cases p with
  | requested | joined | returned => cases ho
  | resolving => exact .inl h
  | planned | recorded | waiting => exact .inl h.2
  | gathered => exact .inl h.2.1
  | queued => exact .inl h.1
  | holding => exact .inr (Underway.prefix_plan h)
  | running =>
    obtain ⟨passed, rfl, hu⟩ := h
    exact .inr hu.prefix_plan_start
  | leaving | closing => exact Concluded.prefix_plan h

/-- The commands that were started for a name are the first of those of its plan. -/
theorem Attested.prefix_plan (h : Attested F l.records ran cs) (hco : Coherent l cs) (n : Name) :
    commandsOf ran n = [] ∨ ∃ p, Planned F n p ∧ commandsOf ran n <+: p.commands := by
  cases hr : l.records.get? n with
  | none => exact .inl (h.idle hr)
  | some r =>
    cases r with
    | building =>
      obtain ⟨i, c, hc, rfl, ho⟩ := hco.building_owner hr
      exact (h.phase hc).prefix_plan ho
    | settled o => exact (h.settled hr).prefix_plan

theorem Underway.exists_lookUp {passed rest : List Command} (h : Underway F recs n passed rest) :
    ∃ r, F (.lookUp n r) := by
  obtain ⟨p, ⟨pattern, hp⟩, -, -⟩ := h.plan
  exact ⟨_, hp⟩

theorem Concluded.exists_lookUp {ran : List Command} (h : Concluded F recs n o ran) :
    ∃ r, F (.lookUp n r) := by
  cases h with
  | present h => exact ⟨_, h⟩
  | missing h => exact ⟨_, h⟩
  | blamed hp =>
    obtain ⟨pattern, hp⟩ := hp
    exact ⟨_, hp⟩
  | done hu => exact hu.exists_lookUp
  | broken hu => exact hu.exists_lookUp

/-- A name that was requested was looked up, unless its owner is about to. -/
theorem Attested.exists_lookUp (h : Attested F l.records ran cs) (hco : Coherent l cs)
    (hn : l.records.get? n ≠ none)
    (hr : ∀ (i : CallId) (c : Call), cs[i]? = some c → c.phase = .resolving → c.name ≠ n) :
    ∃ r, F (.lookUp n r) := by
  cases hrec : l.records.get? n with
  | none => exact absurd hrec hn
  | some r =>
    cases r with
    | settled o => exact (h.settled hrec).exists_lookUp
    | building =>
      obtain ⟨i, c, hc, rfl, ho⟩ := hco.building_owner hrec
      have hphase := h.phase hc
      cases hp : c.phase with
      | requested | joined | returned =>
        rw [hp] at ho
        cases ho
      | resolving => exact absurd rfl (hr i c hc hp)
      | planned | recorded | waiting | gathered =>
        rw [hp] at hphase
        obtain ⟨pattern, hplan⟩ := hphase.1
        exact ⟨_, hplan⟩
      | queued =>
        rw [hp] at hphase
        exact hphase.2.exists_lookUp
      | holding =>
        rw [hp] at hphase
        exact Underway.exists_lookUp hphase
      | running =>
        rw [hp] at hphase
        obtain ⟨passed, -, hu⟩ := hphase
        exact hu.exists_lookUp
      | leaving | closing =>
        rw [hp] at hphase
        exact Concluded.exists_lookUp hphase

/-! ## Steps keep it -/

namespace Attested

theorem phase_eq (h : Attested F recs ran cs) (hc : cs[i]? = some c) (hp : c.phase = p) :
    p.Attested F recs i c.name (commandsOf ran c.name) := hp ▸ h.phase hc

/-- A call moves on, to a phase that says what is the case. -/
theorem enter (h : Attested F recs ran cs) (hc : cs[i]? = some c)
    (hp : p.Attested F recs i c.name (commandsOf ran c.name)) : Attested F recs ran (enterAt cs i p) where
  phase {j c'} hj := by
    rcases of_getElem?_enterAt hc hj with ⟨rfl, rfl⟩ | ⟨-, hj⟩
    · exact hp
    · exact h.phase hj
  settled := h.settled
  idle := h.idle

/-- The record of a name that is not settled is made or settled. -/
theorem register (h : Attested F recs ran cs) (hrec : ∀ k, k ≠ n → recs'.get? k = recs.get? k)
    (hopen : ∀ o, recs.get? n ≠ some (.settled o)) (hsome : recs'.get? n ≠ none)
    (hend : ∀ o, recs'.get? n = some (.settled o) → Concluded F recs n o (commandsOf ran n)) :
    Attested F recs' ran cs := by
  have hkeep : ∀ k o, recs.get? k = some (.settled o) → recs'.get? k = some (.settled o) := by
    intro k o hk
    rw [hrec k (fun hkn => hopen o (hkn ▸ hk)), hk]
  refine ⟨fun hj => (h.phase hj).mono (fun _ => id) hkeep, fun {k o} hk => ?_, fun {k} hk => ?_⟩
  · by_cases hkn : k = n
    · subst hkn
      exact (hend o hk).mono (fun _ => id) hkeep
    · rw [hrec k hkn] at hk
      exact (h.settled hk).mono (fun _ => id) hkeep
  · by_cases hkn : k = n
    · exact absurd hk (hkn ▸ hsome)
    · exact h.idle (hrec k hkn ▸ hk)

/-- The owner of a name starts a command. -/
theorem launch (h : Attested F l.records ran cs) (hco : Coherent l cs) (hc : cs[i]? = some c)
    {command : Command} {rest : List Command} (hp : c.phase = .holding (command :: rest)) :
    Attested F l.records (ran ++ [(c.name, command)]) (enterAt cs i (.running command rest)) := by
  have ho : c.phase.owns = true := by rw [hp]; rfl
  have hb := hco.owner_building hc ho
  refine ⟨fun {j c'} hj => ?_, fun {k o} hk => ?_, fun {k} hk => ?_⟩
  · rcases of_getElem?_enterAt hc hj with ⟨rfl, rfl⟩ | ⟨hji, hj⟩
    · simp only [commandsOf_append_self]
      exact ⟨_, rfl, h.phase_eq hc hp⟩
    · by_cases hn : c'.name = c.name
      · -- another call for the name does not own it
        cases ho' : c'.phase.owns with
        | true => exact absurd (hco.owner_unique hj hc ho' ho hn) hji
        | false => exact (h.phase hj).of_guest ho'
      · rw [commandsOf_append_other ran hn]
        exact h.phase hj
  · have hkn : k ≠ c.name := fun hkn => by rw [hkn, hb] at hk; cases hk
    rw [commandsOf_append_other ran hkn]
    exact h.settled hk
  · have hkn : k ≠ c.name := fun hkn => by rw [hkn, hb] at hk; cases hk
    rw [commandsOf_append_other ran hkn]
    exact h.idle hk

/-- Calls are added that wait for their admission. -/
theorem append {ds : List Call} (h : Attested F recs ran cs) (hd : ∀ c ∈ ds, c.phase = .requested) :
    Attested F recs ran (cs ++ ds) where
  phase {j c'} hj := by
    rw [List.getElem?_append] at hj
    split at hj
    · exact h.phase hj
    · rw [hd c' (List.mem_of_getElem? hj)]
      trivial
  settled := h.settled
  idle := h.idle

/-- Once the calls that an owner waits for have returned, their answers are gathered. -/
theorem gathered (h : Attested F recs ran cs) (hco : Coherent l cs) (hc : cs[i]? = some c) {pl : Plan}
    {ids : List CallId} {os : List Outcome} (hp : c.phase = .waiting pl ids)
    (hos : List.Forall₂ (fun j o => ∃ c' : Call, cs[j]? = some c' ∧ c'.phase = .returned o) ids os) :
    Gathered F recs c.name pl (blame c.name (pl.dependencies.zip os)) := by
  obtain ⟨hfst, hzip⟩ := hco.zip_ended hc hp hos
  refine ⟨_, hfst, fun a hm => ?_, rfl⟩
  obtain ⟨j, c', hj, hn, hph⟩ := hzip a hm
  exact ⟨j, hn ▸ h.phase_eq hj hph⟩

end Attested

namespace Machine

variable {σ : Type} {site : Site σ} {ok : σ → Prop} {jobs : Option Int} {m m' : Machine σ}

/-- A step keeps what is attested, if what is done in it is among the events. -/
theorem attested_moves (h : Attested F m.ledger.records m.ran m.calls) (hco : Coherent m.ledger m.calls)
    (hc : m.calls[i]? = some c) (hm : Moves site m i c m') (hF : ∀ e, m.event? site i c = some e → F e) :
    Attested F m'.ledger.records m'.ran m'.calls := by
  cases hm with
  | own hp ha =>
    have hnone := (Ledger.get?_of_own ha).2
    have hreg : Attested F (m.ledger.enroll c.name).records m.ran m.calls := by
      refine h.register (n := c.name) (fun k hk => ?_) (by simp [hnone]) ?_ fun o ho => ?_
      · rw [Ledger.records_get?_enroll, if_neg hk]
      · simp [Ledger.records_get?_enroll]
      · simp [Ledger.records_get?_enroll] at ho
    exact hreg.enter hc (h.idle hnone)
  | join hp ha => exact h.enter hc trivial
  | refuse hp ha => exact h.enter hc (.inr ⟨_, rfl, hF _ (by simp [event?, hp, ha])⟩)
  | inherit hp ho =>
    refine h.enter hc (.inl ?_)
    unfold Ledger.outcome? at ho
    split at ho <;> cases ho
    assumption
  | @plan p pattern hp hr hd =>
    simp only [enter_ledger, enter_calls, enter_ran, noteIf_ledger, noteIf_calls, noteIf_ran]
    exact h.enter hc ⟨⟨pattern, hF _ (by simp [event?, hp, hr])⟩, h.phase_eq hc hp⟩
  | @queue p pattern hp hr hd =>
    simp only [enter_ledger, enter_calls, enter_ran, noteIf_ledger, noteIf_calls, noteIf_ran]
    have hplan : Planned F c.name p := ⟨pattern, hF _ (by simp [event?, hp, hr])⟩
    exact h.enter hc ⟨h.phase_eq hc hp, .of_planned hplan (by simp [hd])⟩
  | find hp hr =>
    have hran : commandsOf m.ran c.name = [] := h.phase_eq hc hp
    refine h.enter hc (?_ : Concluded _ _ _ _ _)
    rw [hran]
    exact .present (hF _ (by simp [event?, hp, hr]))
  | miss hp hr =>
    have hran : commandsOf m.ran c.name = [] := h.phase_eq hc hp
    refine h.enter hc (?_ : Concluded _ _ _ _ _)
    rw [hran]
    exact .missing (hF _ (by simp [event?, hp, hr]))
  | @record p hp =>
    have hphase : Planned F c.name p ∧ commandsOf m.ran c.name = [] := h.phase_eq hc hp
    exact h.enter hc hphase
  | @spawn p hp =>
    have hphase : Planned F c.name p ∧ commandsOf m.ran c.name = [] := h.phase_eq hc hp
    exact (h.append fun _ => Call.phase_of_mem_children).enter (getElem?_append_of_eq_some hc _) hphase
  | gather hp hos =>
    obtain ⟨hplan, hran⟩ := h.phase_eq hc hp
    exact h.enter hc ⟨hplan, hran, h.gathered hco hc hp (forall₂_of_gather hos)⟩
  | proceed hp =>
    obtain ⟨hplan, hran, hg⟩ := h.phase_eq hc hp
    exact h.enter hc ⟨hran, .of_planned hplan hg.done⟩
  | abandon hp =>
    obtain ⟨hplan, hran, hg⟩ := h.phase_eq hc hp
    refine h.enter hc (?_ : Concluded _ _ _ _ _)
    rw [hran]
    exact .blamed hplan hg
  | skip hp =>
    obtain ⟨hran, hu⟩ := h.phase_eq hc hp
    exact h.enter hc (.done (hran.symm ▸ hu))
  | acquire hp hs =>
    obtain ⟨free, rfl, -⟩ := eq_of_takeSlot hs
    obtain ⟨hran, hu⟩ := h.phase_eq hc hp
    exact h.enter hc (hran.symm ▸ hu)
  | exhaust hp => exact h.enter hc (.done (h.phase_eq hc hp))
  | launch hp => exact h.launch hco hc hp
  | pass hp hr =>
    obtain ⟨passed, hran, hu⟩ := h.phase_eq hc hp
    exact h.enter hc (hran ▸ hu.pass (hF _ (by simp [event?, hp, hr, hran])))
  | fail hp hr =>
    obtain ⟨passed, hran, hu⟩ := h.phase_eq hc hp
    exact h.enter hc (hran ▸ Concluded.broken hu (hF _ (by simp [event?, hp, hr, hran])))
  | @leave o hp =>
    simp only [enter_ledger, enter_calls, enter_ran, giveSlot_ledger, giveSlot_calls, giveSlot_ran,
      noteIf_ledger, noteIf_calls, noteIf_ran]
    have hend : Concluded F m.ledger.records c.name o (commandsOf m.ran c.name) := h.phase_eq hc hp
    exact h.enter hc hend
  | @publish o hp =>
    have hb := hco.owner_building hc (by rw [hp]; rfl)
    have hend : Concluded F m.ledger.records c.name o (commandsOf m.ran c.name) := h.phase_eq hc hp
    have hself : (m.ledger.settle c.name o).records.get? c.name = some (.settled o) := by
      simp [Ledger.records_get?_settle]
    have hreg : Attested F (m.ledger.settle c.name o).records m.ran m.calls := by
      refine h.register (n := c.name) (fun k hk => ?_) (by simp [hb]) (by simp [hself]) fun o' ho => ?_
      · rw [Ledger.records_get?_settle, if_neg hk]
      · rw [hself] at ho
        cases ho
        exact hend
    exact hreg.enter hc (.inl hself)

end Machine

/-- At every moment of a course, what stands in the machine has come about by the events before. -/
theorem Course.attested {σ : Type} {site : Site σ} {ok : σ → Prop} {jobs : Option Int} {m : Nat → Machine σ}
    (h : Course site ok jobs m) (k : Nat) :
    Attested (Happened site m k) (m k).ledger.records (m k).ran (m k).calls := by
  induction k with
  | zero =>
    obtain ⟨free, w, hm⟩ := h.zero_eq
    rw [hm]
    exact ⟨by simp, by simp, by simp [commandsOf]⟩
  | succ k ih =>
    have hmono : ∀ e, Happened site m k e → Happened site m (k + 1) e := by
      rintro e ⟨j, hj, he⟩
      exact ⟨j, Nat.lt_succ_of_lt hj, he⟩
    have ih := ih.mono hmono
    have hn := h.next k
    have hnow : ∀ e, (m k).Does site e (m (k + 1)) → Happened site m (k + 1) e :=
      fun e he => ⟨k, Nat.lt_succ_self k, he⟩
    generalize hm' : m (k + 1) = m' at hn hnow ⊢
    cases hn with
    | step hs =>
      obtain ⟨c, hc, hm⟩ := Machine.step_iff.1 hs
      exact Machine.attested_moves ih (h.coherent k) hc hm fun e he => hnow e ⟨_, c, hc, he, hs⟩
    | start n => exact ih.append (by simp)
    | turn w => exact ih

end Buildfile.Build
