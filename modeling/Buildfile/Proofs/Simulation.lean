import Buildfile.Build.Serial
import Buildfile.Proofs.Coherence
/-!
# The serial build is one of the schedules

Whatever the serial build does, the machine can do by letting one call at a time take its steps:
`leads_visit` follows a visit with a call, and leaves the machine with the ledger, the commands and
the world that the visit leaves behind. So what holds for every schedule holds for serial builds.

The serial build forgets waits that were never recorded, those of a plan without dependencies; the
machine has nothing to forget there. That the two ledgers agree all the same rests on the ledger
being coherent with the calls.
-/

namespace Buildfile.Build.Machine

open Relation

variable {σ : Type} {site : Site σ} {m m' m'' : Machine σ} {i : CallId} {c : Call} {ids ids' : List CallId}

/-! ## Sessions of a machine -/

/-- What a machine leaves behind. -/
def session (m : Machine σ) : Session σ where
  ledger := m.ledger
  ran := m.ran
  world := m.world

section Session
variable (site : Site σ) (m : Machine σ)

@[simp] theorem session_enter (i : CallId) (p : Phase) : (m.enter i p).session = m.session := rfl
@[simp] theorem session_update (f : Ledger → Ledger) : (m.update f).session = m.session.update f := rfl
@[simp] theorem session_note (k : Note) : (m.note site k).session = m.session.note site k := rfl
@[simp] theorem session_giveSlot : m.giveSlot.session = m.session := rfl
@[simp] theorem session_requestAll (ds as : List Name) : (m.requestAll ds as).session = m.session := rfl
@[simp] theorem session_start (n : Name) : (m.start n).session = m.session := rfl

@[simp] theorem session_noteIf (k : Option Note) :
    (m.noteIf site k).session = k.elim m.session (m.session.note site) := by
  cases k <;> rfl

end Session

/-! ## Runs that touch some calls only -/

/-- Steps lead from `m` to `m'`, and of the calls of `m` they touch none but `ids`. -/
structure Leads (site : Site σ) (ids : List CallId) (m m' : Machine σ) : Prop where
  steps : Steps site m m'
  others {j : CallId} {c : Call} : j ∉ ids → m.calls[j]? = some c → m'.calls[j]? = some c

theorem Leads.refl : Leads site ids m m := ⟨.refl, fun _ h => h⟩

theorem Leads.trans (h : Leads site ids m m') (h' : Leads site ids' m' m'')
    (hids : ∀ j ∈ ids', j ∈ ids ∨ m.calls.length ≤ j) : Leads site ids m m'' := by
  refine ⟨h.steps.trans h'.steps, fun {j c} hj hc => h'.others (fun hj' => ?_) (h.others hj hc)⟩
  -- calls that were started in between are no calls of `m`
  have hlt : j < m.calls.length := (List.getElem?_eq_some_iff.1 hc).1
  rcases hids j hj' with hj' | hj'
  · exact hj hj'
  · exact absurd hlt (Nat.not_lt.2 hj')

theorem Leads.trans_same (h : Leads site ids m m') (h' : Leads site ids m' m'') : Leads site ids m m'' :=
  h.trans h' fun _ hj => .inl hj

theorem Leads.of_moves (hc : m.calls[i]? = some c) (hm : Moves site m i c m') : Leads site [i] m m' := by
  refine ⟨.single ⟨i, step_iff.2 ⟨c, hc, hm⟩⟩, fun {j c'} hj hc' => ?_⟩
  have hji : j ≠ i := by simpa using hj
  obtain ⟨p, h | ⟨pl, h⟩⟩ := calls_of_moves hm
  · rw [h, enterAt_other _ hji, hc']
  · rw [h, enterAt_other _ hji, getElem?_append_of_eq_some hc']

theorem Leads.coherent (h : Leads site ids m m') (hco : Coherent m.ledger m.calls) :
    Coherent m'.ledger m'.calls := by
  obtain ⟨hsteps, -⟩ := h
  induction hsteps with
  | refl => exact hco
  | tail _ hs ih =>
    obtain ⟨i, hs⟩ := hs
    obtain ⟨c, hc, hm⟩ := step_iff.1 hs
    exact coherent_moves ih hc hm

/-- Steps that touch call `i` alone take it, which stands at `c`, to phase `p`. They leave the session
`s` behind, and as many free slots as there were. -/
def Brings (site : Site σ) (m : Machine σ) (i : CallId) (c : Call) (p : Phase) (s : Session σ) : Prop :=
  ∃ m', Leads site [i] m m' ∧ m'.session = s ∧ m'.slots = m.slots ∧ m'.calls[i]? = some { c with phase := p }

theorem Brings.of_leads {p : Phase} {s : Session σ} (hl : Leads site [i] m m') (hslots : m'.slots = m.slots)
    {c' : Call} (hn : c'.name = c.name) (ha : c'.ancestors = c.ancestors) (h : Brings site m' i c' p s) :
    Brings site m i c p s := by
  obtain ⟨m'', hl', hs, hslots', hc''⟩ := h
  exact ⟨m'', hl.trans_same hl', hs, hslots'.trans hslots, by rw [hc'', hn, ha]⟩

/-- A step, and what follows it. -/
theorem Brings.head {p q : Phase} {s : Session σ} (hc : m.calls[i]? = some c) (hm : Moves site m i c m')
    (hslots : m'.slots = m.slots) (h : Brings site m' i { c with phase := q } p s) : Brings site m i c p s :=
  .of_leads (.of_moves hc hm) hslots rfl rfl h

/-! ## Commands -/

theorem leads_run {commands : List Command} {o : Outcome} {s : Session σ} (hc : m.calls[i]? = some c)
    (hp : c.phase = .holding commands) (hr : m.session.run site c.name commands = (o, s)) :
    Brings site m i c (.leaving o) s := by
  induction commands generalizing m c with
  | nil =>
    cases hr
    exact ⟨_, .of_moves hc (.exhaust hp), rfl, rfl, enterAt_self hc _⟩
  | cons command rest ih =>
    have hlaunch : Moves site m i c _ := .launch hp
    refine Brings.head hc hlaunch rfl (q := .running command rest) ?_
    have hc' := enterAt_self hc (.running command rest)
    rw [Session.run] at hr
    rcases hperf : site.perform c.name command m.world with ⟨_ | f, w⟩
    · rw [show site.perform c.name command m.session.world = (none, w) from hperf] at hr
      refine Brings.head hc' (.pass rfl hperf) rfl (q := .holding rest) ?_
      exact ih (enterAt_self hc' _) rfl hr
    · rw [show site.perform c.name command m.session.world = (some f, w) from hperf] at hr
      cases hr
      exact ⟨_, .of_moves hc' (.fail rfl hperf), rfl, rfl, enterAt_self hc' _⟩

theorem conclude_none (site : Site σ) (n : Name) (commands : List Command) (s : Session σ) :
    s.conclude site n commands none = ((s.run site n commands).1,
      (finishNote? n (s.run site n commands).1).elim (s.run site n commands).2
        ((s.run site n commands).2.note site)) := by
  unfold Session.conclude
  rcases s.run site n commands with ⟨_ | f, s'⟩ <;> rfl

/-- A target whose dependencies have succeeded takes a slot, runs its commands and gives the slot back. -/
theorem leads_conclude {commands : List Command} {o : Outcome} {s : Session σ} (hc : m.calls[i]? = some c)
    (hp : c.phase = .queued commands) (hfree : m.slots ≠ some 0)
    (hr : m.session.conclude site c.name commands none = (o, s)) : Brings site m i c (.closing o) s := by
  cases commands with
  | nil =>
    cases hr
    exact ⟨_, .of_moves hc (.skip hp), rfl, rfl, enterAt_self hc _⟩
  | cons command rest =>
    obtain ⟨m₁, ht⟩ : ∃ m₁, m.takeSlot = some m₁ := by
      unfold takeSlot
      split
      · exact ⟨_, rfl⟩
      · next h => exact absurd h hfree
      · exact ⟨_, rfl⟩
    have hacquire : Moves site m i c _ := .acquire hp ht
    obtain ⟨free, rfl, hslots⟩ := eq_of_takeSlot ht
    rw [conclude_none] at hr
    rcases hrun : m.session.run site c.name (command :: rest) with ⟨o', s'⟩
    rw [hrun] at hr
    cases hr
    obtain ⟨m₂, hl, rfl, hslots₂, hc₂⟩ := leads_run
      (m := { m with slots := free }.enter i (.holding (command :: rest))) (enterAt_self hc _) rfl hrun
    have hleave : Leads site [i] m₂ _ := .of_moves hc₂ (.leave rfl)
    refine ⟨_, (Leads.of_moves hc hacquire).trans_same (hl.trans_same hleave), by simp, ?_, ?_⟩
    · simp only [enter_slots, giveSlot_slots, noteIf_slots, hslots₂]
      rcases hslots with ⟨hm, rfl⟩ | ⟨k, hm, rfl⟩ <;> simp [hm]
    · simp only [enter_calls, giveSlot_calls, noteIf_calls]
      exact enterAt_self hc₂ _

/-! ## Dependencies -/

/-- A call does what a visit does. -/
def Simulates (site : Site σ) (ancestors : List Name) (visit : Session.Visit σ) : Prop :=
  ∀ {m : Machine σ} {i : CallId} {n : Name} {o : Outcome} {s : Session σ}, Coherent m.ledger m.calls →
    m.slots ≠ some 0 → m.calls[i]? = some { name := n, ancestors, phase := .requested } →
    visit n m.session = some (o, s) →
    Brings site m i { name := n, ancestors, phase := .requested } (.returned o) s

theorem map_fst_visitAll {visit : Session.Visit σ} {ns : List Name} {s s' : Session σ}
    {os : List (Name × Outcome)} (h : Session.visitAll visit ns s = some (os, s')) : os.map (·.1) = ns := by
  induction ns generalizing s os with
  | nil =>
    cases h
    rfl
  | cons n ns ih =>
    simp only [Session.visitAll, Option.bind_eq_some_iff, Option.map_eq_some_iff] at h
    obtain ⟨r, -, rs, hrs, h⟩ := h
    cases h
    rw [List.map_cons, ih hrs]

/-- Calls take their steps one after another. -/
theorem leads_visitAll {ancestors : List Name} {visit : Session.Visit σ}
    (hsim : Simulates site ancestors visit) {ns : List Name} {os : List (Name × Outcome)} {s : Session σ} (hco : Coherent m.ledger m.calls)
    (hfree : m.slots ≠ some 0) (hids : ids.Nodup)
    (hcalls : List.Forall₂
      (fun j d => m.calls[j]? = some { name := d, ancestors, phase := .requested }) ids ns)
    (hv : Session.visitAll visit ns m.session = some (os, s)) :
    ∃ m', Leads site ids m m' ∧ m'.session = s ∧ m'.slots = m.slots ∧
      List.Forall₂
        (fun j a => m'.calls[j]? = some { name := a.1, ancestors, phase := .returned a.2 }) ids os := by
  induction ns generalizing m ids os with
  | nil =>
    cases hcalls
    cases hv
    exact ⟨m, .refl, rfl, rfl, .nil⟩
  | cons d ns ih =>
    cases hcalls with
    | @cons j _ ids _ hj hcalls =>
    simp only [Session.visitAll, Option.bind_eq_some_iff, Option.map_eq_some_iff] at hv
    obtain ⟨⟨o, s₁⟩, hd, ⟨os', s₂⟩, hds, hv⟩ := hv
    cases hv
    obtain ⟨hjids, hids⟩ := List.nodup_cons.1 hids
    obtain ⟨m₁, hl₁, rfl, hslots₁, hj₁⟩ := hsim hco hfree hj hd
    have hcalls₁ : List.Forall₂
        (fun k d => m₁.calls[k]? = some { name := d, ancestors, phase := .requested }) ids ns := by
      have hne : ∀ k ∈ ids, k ∉ [j] := fun k hk hkj => hjids (List.mem_singleton.1 hkj ▸ hk)
      exact ((List.forall₂_and_left _ _).2 ⟨hne, hcalls⟩).imp fun k d hkd => hl₁.others hkd.1 hkd.2
    obtain ⟨m₂, hl₂, hs₂, hslots₂, hcalls₂⟩ := ih (hl₁.coherent hco) (hslots₁ ▸ hfree) hids hcalls₁ hds
    -- neither the first call nor the others touch a call outside of the list
    have hl : Leads site (j :: ids) m m₂ := by
      refine ⟨hl₁.steps.trans hl₂.steps, fun hk hc => hl₂.others (fun h => hk (List.mem_cons_of_mem _ h)) ?_⟩
      exact hl₁.others (fun h => hk (List.mem_singleton.1 h ▸ List.mem_cons_self)) hc
    exact ⟨m₂, hl, hs₂, hslots₂.trans hslots₁, .cons (hl₂.others hjids hj₁) hcalls₂⟩

theorem session_release (hco : Coherent m.ledger m.calls) (hc : m.calls[i]? = some c)
    (ho : c.phase.owns = true) (ha : c.phase.awaited? = none) :
    m.session.update (·.release c.name) = m.session := by
  have hw : m.ledger.release c.name = m.ledger :=
    Ledger.release_eq_self ((hco.waits_get?_owner hc ho).trans ha)
  change { m.session with ledger := m.ledger.release c.name } = m.session
  rw [hw]
  rfl

/-- Once the calls for its dependencies have returned, an owner goes on to its end. -/
theorem leads_gathered {p : Plan} {calls : List CallId} {os : List (Name × Outcome)} {o : Outcome}
    {s : Session σ} {ancestors : List Name} (hc : m.calls[i]? = some c) (hp : c.phase = .waiting p calls)
    (hfree : m.slots ≠ some 0) (hos : os.map (·.1) = p.dependencies)
    (hcalls : List.Forall₂
      (fun j a => m.calls[j]? = some { name := a.1, ancestors, phase := .returned a.2 }) calls os)
    (hr : (m.session.update (·.release c.name)).conclude site c.name p.commands (blame c.name os) = (o, s)) :
    Brings site m i c (.closing o) s := by
  have hresults : calls.mapM m.result? = some (os.map (·.2)) := by
    rw [mapM_eq_some_iff, List.forall₂_map_right_iff]
    refine hcalls.imp fun j a hj => ?_
    simp [result?, hj, Phase.result?]
  have hzip : p.dependencies.zip (os.map (·.2)) = os := by
    rw [← hos, List.zip_map']
    simp
  have hgather : Moves site m i c _ := .gather hp hresults
  rw [hzip] at hgather
  refine .head hc hgather rfl (q := .gathered p (blame c.name os)) ?_
  have hc₁ := enterAt_self hc (.gathered p (blame c.name os))
  cases hb : blame c.name os with
  | none =>
    rw [hb] at hr hc₁
    refine .head hc₁ (.proceed rfl) rfl (q := .queued p.commands) ?_
    exact leads_conclude (enterAt_self hc₁ _) rfl hfree hr
  | some f =>
    rw [hb] at hr hc₁
    cases hr
    exact ⟨_, .of_moves hc₁ (.abandon rfl), rfl, rfl, enterAt_self hc₁ _⟩

/-- An owner does what its plan asks for. -/
theorem leads_carryOut {p : Plan} {visit : Session.Visit σ} {o : Outcome} {s : Session σ}
    (hsim : Simulates site (c.ancestors ++ [c.name]) visit) (hco : Coherent m.ledger m.calls)
    (hfree : m.slots ≠ some 0) (hc : m.calls[i]? = some c)
    (hp : c.phase = if p.dependencies = [] then .queued p.commands else .planned p)
    (hr : m.session.carryOut site visit c.name p = some (o, s)) : Brings site m i c (.closing o) s := by
  unfold Session.carryOut at hr
  by_cases hd : p.dependencies = []
  · rw [if_pos hd] at hp
    simp only [hd, if_true, Session.visitAll, Option.map_some, Option.some.injEq, blame] at hr
    rw [session_release hco hc (by rw [hp]; rfl) (by rw [hp]; rfl)] at hr
    exact leads_conclude hc hp hfree hr
  · rw [if_neg hd] at hp
    simp only [if_neg hd, Option.map_eq_some_iff] at hr
    obtain ⟨⟨os, s₁⟩, hv, hr⟩ := hr
    -- the owner records its dependencies and starts a call for each of them
    let m₁ : Machine σ := (m.update (·.await c.name p.dependencies)).enter i (.recorded p)
    let calls := List.range' m₁.calls.length p.dependencies.length
    let m₂ : Machine σ := (m₁.requestAll p.dependencies (c.ancestors ++ [c.name])).enter i (.waiting p calls)
    have hc₁ : m₁.calls[i]? = some { c with phase := .recorded p } := enterAt_self hc _
    have hi : i < m₁.calls.length := (List.getElem?_eq_some_iff.1 hc₁).1
    have hlen : m₁.calls.length = m.calls.length := List.length_modify ..
    have hl₂ : Leads site [i] m m₂ := (Leads.of_moves hc (.record hp)).trans_same (.of_moves hc₁ (.spawn rfl))
    have hc₂ : m₂.calls[i]? = some { c with phase := .waiting p calls } :=
      enterAt_self (c := { c with phase := .recorded p }) (getElem?_append_of_eq_some hc₁ _) _
    -- these calls then take their steps one after another
    obtain ⟨m₃, hl₃, rfl, hslots₃, hcalls₃⟩ := leads_visitAll (m := m₂) hsim (hl₂.coherent hco) hfree
      List.nodup_range' (getElem?_spawn hi p.dependencies _) hv
    have hnew : ∀ j ∈ calls, m.calls.length ≤ j := fun j hj => hlen ▸ (List.mem_range'_1.1 hj).1
    have hold : i ∉ calls := fun hmem => absurd (hnew i hmem) (Nat.not_le.2 (hlen ▸ hi))
    have hl : Leads site [i] m m₃ := hl₂.trans hl₃ fun j hj => .inr (hnew j hj)
    have hend : Brings site m₃ i { c with phase := .waiting p calls } (.closing o) s :=
      leads_gathered (hl₃.others hold hc₂) rfl (hslots₃ ▸ hfree) (map_fst_visitAll hv) hcalls₃ hr
    exact hend.of_leads hl hslots₃ rfl rfl

/-! ## Visits -/

theorem leads_build {visit : Session.Visit σ} {o : Outcome} {s : Session σ}
    (hsim : Simulates site (c.ancestors ++ [c.name]) visit) (hco : Coherent m.ledger m.calls)
    (hfree : m.slots ≠ some 0) (hc : m.calls[i]? = some c) (hp : c.phase = .resolving)
    (hr : m.session.build site visit c.name = some (o, s)) : Brings site m i c (.closing o) s := by
  have hresolve : site.resolve m.session.world c.name = site.resolve m.world c.name := rfl
  unfold Session.build at hr
  cases hres : site.resolve m.world c.name with
  | planned p pattern =>
    simp only [hresolve, hres, ← session_noteIf] at hr
    have hfree₁ : (m.noteIf site ((Resolution.planned p pattern).note? c.name)).slots ≠ some 0 := by
      rwa [noteIf_slots]
    by_cases hd : p.dependencies = []
    · have hqueue : Moves site m i c _ := .queue hp hres hd
      refine .head hc hqueue (by simp) (q := .queued p.commands) ?_
      refine leads_carryOut hsim (coherent_moves hco hc hqueue) hfree₁ ?_ (if_pos hd).symm hr
      rw [enter_calls, noteIf_calls]
      exact enterAt_self hc _
    · have hplan : Moves site m i c _ := .plan hp hres hd
      refine .head hc hplan (by simp) (q := .planned p) ?_
      refine leads_carryOut hsim (coherent_moves hco hc hplan) hfree₁ ?_ (if_neg hd).symm hr
      rw [enter_calls, noteIf_calls]
      exact enterAt_self hc _
  | present =>
    simp only [hresolve, hres] at hr
    cases hr
    exact ⟨_, .of_moves hc (.find hp hres), rfl, rfl, enterAt_self hc _⟩
  | missing =>
    simp only [hresolve, hres] at hr
    cases hr
    exact ⟨_, .of_moves hc (.miss hp hres), rfl, rfl, enterAt_self hc _⟩

/-- A visit is one of the ways in which a call can go. -/
theorem leads_visit (site : Site σ) (depth : Nat) (ancestors : List Name) :
    Simulates site ancestors (Session.visit site depth ancestors) := by
  induction depth generalizing ancestors with
  | zero =>
    intro m i n o s _ _ _ hr
    cases hr
  | succ depth ih =>
    intro m i n o s hco hfree hc hr
    have hadmission : m.session.ledger.admission n ancestors = m.ledger.admission n ancestors := rfl
    rw [Session.visit] at hr
    cases ha : m.ledger.admission n ancestors with
    | refuse e =>
      simp only [hadmission, ha] at hr
      cases hr
      exact ⟨_, .of_moves hc (.refuse rfl ha), rfl, rfl, enterAt_self hc _⟩
    | join =>
      simp only [hadmission, ha, Option.map_eq_some_iff] at hr
      obtain ⟨o', ho, hr⟩ := hr
      cases hr
      refine .head hc (.join rfl ha) rfl (q := .joined) ?_
      have hc₁ := enterAt_self hc .joined
      exact ⟨_, .of_moves hc₁ (.inherit rfl ho), rfl, rfl, enterAt_self hc₁ _⟩
    | own =>
      simp only [hadmission, ha, Option.map_eq_some_iff] at hr
      obtain ⟨⟨o', s₁⟩, hb, hr⟩ := hr
      cases hr
      have hown : Moves site m i { name := n, ancestors, phase := .requested } _ := .own rfl ha
      have hc₁ := enterAt_self hc .resolving
      obtain ⟨m₂, hl₂, rfl, hslots₂, hc₂⟩ := leads_build (m := (m.update (·.enroll n)).enter i .resolving)
        (ih _) (coherent_moves hco hc hown) hfree hc₁ rfl hb
      have hl := ((Leads.of_moves hc hown).trans_same hl₂).trans_same (.of_moves hc₂ (.publish rfl))
      refine ⟨_, hl, rfl, hslots₂, ?_⟩
      exact enterAt_self hc₂ _

/-- The serial build of a name is one of the ways in which a request from outside can go. -/
theorem leads_execute {depth : Nat} {n : Name} {o : Outcome} {s : Session σ}
    (hco : Coherent m.ledger m.calls) (hfree : m.slots ≠ some 0)
    (h : m.session.execute site depth n = some (o, s)) :
    ∃ m', Leads site [m.calls.length] (m.start n) m' ∧ m'.session = s ∧
      m'.result? m.calls.length = some o := by
  obtain ⟨m', hl, hs, -, hc⟩ := leads_visit site depth [] (m := m.start n) (hco.request n) hfree
    List.getElem?_concat_length h
  exact ⟨m', hl, hs, by simp [result?, hc, Phase.result?]⟩

end Buildfile.Build.Machine
