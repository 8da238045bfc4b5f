import Buildfile.Proofs.Depth
import Buildfile.Proofs.Outcome
import Buildfile.Proofs.Progress
import Buildfile.Proofs.Simulation
/-!
# Building side by side agrees with building in order

Where no cycle can be reached, the terms of a steady site let every name end in one way only, so two
machines whose calls have returned and that were asked for the same names agree on all of them
(`agree`). The serial build is one of the schedules and comes to an end; every other schedule comes
to an end as well, and `execute_agrees` puts these together: each ends like the serial build.
-/

namespace Buildfile.Build

open Relation

variable {σ : Type} {site : Site σ} {ok : σ → Prop} {b : Rulebook} {isFile : Name → Bool}
  {outcome : Name → Command → Outcome} {t : Terms}

/-- The site resolves names by these rules and files and its commands end like this, and neither changes
through what is done on it. -/
structure Site.Steady (site : Site σ) (ok : σ → Prop) (b : Rulebook) (isFile : Name → Bool)
    (outcome : Name → Command → Outcome) : Prop extends site.Keeps ok where
  resolves {w : σ} (n : Name) : ok w → site.resolve w n = Build.resolve b isFile n
  performs {w : σ} (n : Name) (c : Command) : ok w → (site.perform n c w).1 = outcome n c

/-- The terms that say which names are files and how each command ends. -/
def Terms.fixing (b : Rulebook) (isFile : Name → Bool) (outcome : Name → Command → Outcome) : Terms where
  rulebook := b
  isFile n v := isFile n = v
  performs n c o := outcome n c = o

theorem Terms.fixed_fixing : (Terms.fixing b isFile outcome).Fixed :=
  ⟨fun h h' => h.symm.trans h', fun h h' => h.symm.trans h'⟩

namespace Site.Steady

theorem hold (h : site.Steady ok b isFile outcome) {w : σ} (hw : ok w) :
    (Terms.fixing b isFile outcome).Hold site w :=
  ⟨⟨isFile, fun _ => rfl, fun n => h.resolves n hw⟩, fun n c => (h.performs n c hw).symm⟩

theorem follows (h : site.Steady ok b isFile outcome) {w : σ} (hw : ok w) : site.Follows b w :=
  ⟨isFile, fun n => h.resolves n hw⟩

end Site.Steady

namespace Machine

variable {m m' m₁ m₂ : Machine σ} {i : CallId} {c : Call} {n : Name} {jobs : Option Int}

/-- Two machines agree on a name that reaches no cycle, if both have settled it. -/
theorem settled_unique (ht : t.Fixed) (hs₁ : Sound t m₁.ledger.records m₁.ran m₁.calls)
    (hs₂ : Sound t m₂.ledger.records m₂.ran m₂.calls)
    (hacyclic : ∀ k, ReflTransGen t.rulebook.Needs n k → ¬ TransGen t.rulebook.Needs k k) {o₁ o₂ : Outcome}
    (h₁ : m₁.ledger.records.get? n = some (.settled o₁))
    (h₂ : m₂.ledger.records.get? n = some (.settled o₂)) :
    o₁ = o₂ ∧ commandsOf m₁.ran n = commandsOf m₂.ran n :=
  (hs₁.settled h₁).1.unique ht hacyclic (hs₂.settled h₂).1

/-- Two machines whose calls have returned and that were asked for the same names agree on every
name, if these reach no cycle. -/
theorem agree (ht : t.Fixed) (hco₁ : Coherent m₁.ledger m₁.calls)
    (hs₁ : Sound t m₁.ledger.records m₁.ran m₁.calls) (hdone₁ : m₁.Finished)
    (hco₂ : Coherent m₂.ledger m₂.calls) (hs₂ : Sound t m₂.ledger.records m₂.ran m₂.calls)
    (hdone₂ : m₂.Finished) (hroots : ∀ n, n ∈ m₁.roots ↔ n ∈ m₂.roots)
    (hacyclic : ∀ r ∈ m₁.roots, ∀ k, ReflTransGen t.rulebook.Needs r k → ¬ TransGen t.rulebook.Needs k k)
    (k : Name) :
    m₁.ledger.records.get? k = m₂.ledger.records.get? k ∧ commandsOf m₁.ran k = commandsOf m₂.ran k := by
  have hiff : m₁.ledger.records.get? k ≠ none ↔ m₂.ledger.records.get? k ≠ none := by
    rw [records_ne_none_iff hco₁ hs₁ hdone₁, records_ne_none_iff hco₂ hs₂ hdone₂]
    simp only [hroots]
  by_cases hk : m₁.ledger.records.get? k = none
  · have hk₂ : m₂.ledger.records.get? k = none := by
      by_contra hne
      exact hiff.2 hne hk
    rw [hk, hk₂, hs₁.idle hk, hs₂.idle hk₂]
    exact ⟨rfl, rfl⟩
  · obtain ⟨o₁, h₁, -⟩ := exists_settled hco₁ hs₁ hdone₁ hk
    obtain ⟨o₂, h₂, -⟩ := exists_settled hco₂ hs₂ hdone₂ (hiff.1 hk)
    obtain ⟨r, hr, hpath⟩ := (records_ne_none_iff hco₁ hs₁ hdone₁).1 hk
    obtain ⟨rfl, hran⟩ := settled_unique ht hs₁ hs₂ (fun j hj => hacyclic r hr j (hpath.trans hj)) h₁ h₂
    exact ⟨h₁.trans h₂.symm, hran⟩

/-- A call for a name that reaches no cycle ends as its name does. -/
theorem record_of_result (ht : t.Fixed) (hco : Coherent m.ledger m.calls)
    (hs : Sound t m.ledger.records m.ran m.calls) (hdone : m.Finished) (hc : m.calls[i]? = some c)
    (hacyclic : ∀ k, ReflTransGen t.rulebook.Needs c.name k → ¬ TransGen t.rulebook.Needs k k) {o : Outcome}
    (ho : m.result? i = some o) : m.ledger.records.get? c.name = some (.settled o) := by
  obtain ⟨c', hc', hp⟩ := of_result? ho
  rw [hc, Option.some.injEq] at hc'
  subst hc'
  obtain ⟨o', ho', hbuilt'⟩ := exists_settled hco hs hdone (hco.admitted hc (by rw [hp]; nofun))
  -- a call that joined may have been refused where its name was built, but only on a cycle
  rcases hs.phase_eq hc hp with ⟨chain, hcycle, -⟩ | ⟨ran, hbuilt⟩
  · exact absurd hcycle.transGen (hacyclic c.name .refl)
  · rw [ho', (hbuilt.unique ht hacyclic hbuilt').1]

/-! ## One request from outside -/

/-- The only request from outside is the first call, for `n`. -/
structure Asked (n : Name) (m : Machine σ) : Prop where
  call : ∃ c, m.calls[0]? = some c ∧ c.name = n ∧ c.ancestors = []
  only {j : CallId} {c : Call} : m.calls[j]? = some c → c.ancestors = [] → j = 0

theorem asked_start {w : σ} {free : Option Nat} : Asked n (start { slots := free, world := w } n) := by
  refine ⟨⟨_, rfl, rfl, rfl⟩, fun {j c} hj _ => ?_⟩
  have hlt := (List.getElem?_eq_some_iff.1 hj).1
  simpa [start, request] using hlt

theorem Asked.steps (h : Asked n m) (hsteps : Steps site m m') : Asked n m' := by
  induction hsteps with
  | refl => exact h
  | tail _ hs ih =>
    obtain ⟨i, hs⟩ := hs
    obtain ⟨c, hc, hm⟩ := step_iff.1 hs
    obtain ⟨r, hr, hn, ha⟩ := ih.call
    obtain ⟨r', hr', hn', ha'⟩ := continues_of_moves hc hm 0 r hr
    refine ⟨⟨r', hr', hn'.trans hn, ha'.trans ha⟩, fun hj hr => ?_⟩
    obtain ⟨q, hq, -, hqa⟩ := of_root_of_moves hc hm hj hr
    exact ih.only hq hqa

theorem Asked.mem_roots_iff (h : Asked n m) (k : Name) : k ∈ m.roots ↔ k = n := by
  obtain ⟨r, hr, hn, ha⟩ := h.call
  rw [mem_roots]
  constructor
  · rintro ⟨j, c, hj, hca, rfl⟩
    obtain rfl := h.only hj hca
    rw [hr, Option.some.injEq] at hj
    exact hj ▸ hn
  · rintro rfl
    exact ⟨0, r, hr, ha, hn⟩

theorem Asked.finished (h : Asked n m) (hco : Coherent m.ledger m.calls) {o : Outcome}
    (ho : m.result? 0 = some o) : m.Finished := by
  refine finished_of_roots hco fun j c hj ha => ?_
  obtain rfl := h.only hj ha
  obtain ⟨c', hc', hp⟩ := of_result? ho
  rw [hj, Option.some.injEq] at hc'
  rw [hc', hp]
  nofun

/-- Two machines that were asked for `n` alone, which reaches no cycle, agree on all once that request
has returned. -/
theorem Asked.agree (ht : t.Fixed) (ha₁ : Asked n m₁) (ha₂ : Asked n m₂)
    (hco₁ : Coherent m₁.ledger m₁.calls) (hs₁ : Sound t m₁.ledger.records m₁.ran m₁.calls)
    (hco₂ : Coherent m₂.ledger m₂.calls) (hs₂ : Sound t m₂.ledger.records m₂.ran m₂.calls)
    (hacyclic : ∀ k, ReflTransGen t.rulebook.Needs n k → ¬ TransGen t.rulebook.Needs k k) {o₁ o₂ : Outcome}
    (h₁ : m₁.result? 0 = some o₁) (h₂ : m₂.result? 0 = some o₂) :
    o₁ = o₂ ∧ ∀ k, m₁.ledger.records.get? k = m₂.ledger.records.get? k ∧
      commandsOf m₁.ran k = commandsOf m₂.ran k := by
  have hdone₁ := ha₁.finished hco₁ h₁
  have hdone₂ := ha₂.finished hco₂ h₂
  have hroots : ∀ k, k ∈ m₁.roots ↔ k ∈ m₂.roots := fun k => by rw [ha₁.mem_roots_iff, ha₂.mem_roots_iff]
  have hall := Machine.agree ht hco₁ hs₁ hdone₁ hco₂ hs₂ hdone₂ hroots fun r hr =>
    ((ha₁.mem_roots_iff r).1 hr) ▸ hacyclic
  refine ⟨?_, hall⟩
  obtain ⟨c₁, hc₁, hn₁, -⟩ := ha₁.call
  obtain ⟨c₂, hc₂, hn₂, -⟩ := ha₂.call
  have hr₁ := record_of_result ht hco₁ hs₁ hdone₁ hc₁ (hn₁ ▸ hacyclic) h₁
  have hr₂ := record_of_result ht hco₂ hs₂ hdone₂ hc₂ (hn₂ ▸ hacyclic) h₂
  rw [hn₁, (hall n).1, ← hn₂, hr₂] at hr₁
  cases hr₁
  rfl

/-- A serial build ends like some machine that was asked for its name alone. -/
theorem exists_of_execute (hk : site.Keeps ok) {w : σ} (hw : ok w) {depth : Nat} {o : Outcome} {s : Session σ}
    (hexec : Session.execute site depth n { world := w } = some (o, s)) :
    ∃ m, Reachable site ok none m ∧ Asked n m ∧ m.session = s ∧ m.result? 0 = some o := by
  have hopen : Reachable site ok none { world := w } := .new rfl hw
  obtain ⟨m, hl, hs, ho⟩ := leads_execute (reachable_coherent hopen) nofun hexec
  exact ⟨m, (hopen.next (.start n) hw).steps hk hl.steps, asked_start.steps hl.steps, hs, ho⟩

/-- Where the files and the success of each command stay the same, a serial build ends well exactly if its name can be
built. -/
theorem execute_decided {succeeds : Name → Command → Bool} (hk : site.Keeps ok)
    (hdecides : ∀ w, ok w → site.Decides b isFile succeeds w) {w : σ} (hw : ok w) {depth : Nat} {o : Outcome}
    {s : Session σ} (hexec : Session.execute site depth n { world := w } = some (o, s)) :
    o = none ↔ b.Buildable isFile succeeds n := by
  obtain ⟨m, hreach, hasked, -, ho⟩ := exists_of_execute hk hw hexec
  have hs := (reachable_sound (hreach.mono fun w hw => hold_deciding (hdecides w hw))).1
  obtain ⟨c, hc, rfl, -⟩ := hasked.call
  obtain ⟨c', hc', hp⟩ := of_result? ho
  rw [hc, Option.some.injEq] at hc'
  subst hc'
  rcases hs.phase_eq hc hp with ⟨chain, hcycle, rfl⟩ | ⟨ran, hbuilt⟩
  · exact ⟨nofun, fun hbuild => absurd hcycle.transGen hbuild.not_transGen⟩
  · exact (hbuilt.decided decides_deciding).1

/-- The serial build of a name that reaches finitely many comes to an end, and a machine that was
asked for it alone can end with the same session. -/
theorem exists_serial {w : σ} {m₀ : Machine σ} (hsite : site.Steady ok b isFile outcome) (hw : ok w)
    (hfinite : {k | ReflTransGen b.Needs n k}.Finite) (hnew : Machine.new jobs w = .ok m₀) :
    ∃ depth o s, Session.execute site depth n { world := w } = some (o, s) ∧
      ∃ m, Steps site (m₀.start n) m ∧ m.session = s ∧ m.result? 0 = some o := by
  obtain ⟨depth, ⟨o, s⟩, hexec⟩ := Session.ends_of_finite hsite.toKeeps (fun _ => hsite.follows) hw hfinite
  have hopen : Reachable site ok jobs m₀ := .new hnew hw
  have hco := reachable_coherent hopen
  obtain ⟨free, rfl, hfree⟩ := eq_of_new hnew
  -- a bound on the jobs leaves at least one slot, and the one call that runs at a time gives it back
  have hslots : free ≠ some 0 := by
    rcases hfree with ⟨-, rfl⟩ | ⟨k, -, rfl⟩ <;> simp
  obtain ⟨m, hl, hs, ho⟩ := leads_execute hco hslots hexec
  exact ⟨depth, o, s, hexec, m, hl.steps, hs, ho⟩

/-- A machine in which no call can take a step has answered its first request. -/
theorem Asked.result_of_stuck (h : Asked n m) (hreach : Reachable site ok jobs m)
    (hstuck : ∀ i, m.step site i = none) : ∃ o, m.result? 0 = some o := by
  obtain ⟨c, hc, -, -⟩ := h.call
  cases hr : c.phase.result? with
  | some o => exact ⟨o, by simp [result?, hc, hr]⟩
  | none =>
    obtain ⟨j, m', -, hs⟩ := exists_step site (reachable_coherent hreach) (reachable_slotsKept hreach)
      (reachable_acyclic hreach) hc hr
    rw [hstuck j] at hs
    cases hs

/-- On a steady site, let `n` reach finitely many names and no cycle. Then the serial build of `n`
comes to an end, and so does every schedule of a new machine that is asked for `n`, whatever the
bound on its jobs: there is a bound on the length of schedules, and a machine that can take no
further step has answered. The answer is always that of the serial build, and so are the status of
every name, its stored outcome, and the commands that were started for it, in their order. -/
theorem execute_agrees {w : σ} {m₀ : Machine σ} (hsite : site.Steady ok b isFile outcome) (hw : ok w)
    (hfinite : {k | ReflTransGen b.Needs n k}.Finite)
    (hacyclic : ∀ k, ReflTransGen b.Needs n k → ¬ TransGen b.Needs k k) (hnew : Machine.new jobs w = .ok m₀) :
    ∃ depth o s, Session.execute site depth n { world := w } = some (o, s) ∧
      ∃ bound, ∀ schedule m, (m₀.start n).play site schedule = some m →
        schedule.length ≤ bound ∧ ((∀ i, m.step site i = none) → m.result? 0 = some o) ∧
        ∀ o', m.result? 0 = some o' → o' = o ∧ (∀ k, m.ledger.status k = s.ledger.status k) ∧
          (∀ k, m.ledger.outcome? k = s.ledger.outcome? k) ∧
          ∀ k, commandsOf m.ran k = commandsOf s.ran k := by
  obtain ⟨depth, o, s, hexec, ms, hsteps, rfl, ho⟩ := exists_serial hsite hw hfinite hnew
  have hasked : Asked n (m₀.start n) := by
    obtain ⟨free, rfl, -⟩ := eq_of_new hnew
    exact asked_start
  have hopen : Reachable site ok jobs m₀ := .new hnew hw
  have hstart : Reachable site ok jobs (m₀.start n) := hopen.next (.start n) hopen.ok_world
  have hsound : ∀ {m}, Reachable site ok jobs m →
      Sound (.fixing b isFile outcome) m.ledger.records m.ran m.calls :=
    fun h => (reachable_sound (h.mono fun _ => hsite.hold)).1
  -- the schedule of the serial build is compared with any other
  have hms := hstart.steps hsite.toKeeps hsteps
  refine ⟨depth, o, ms.session, hexec, (m₀.start n).potential b hfinite.toFinset, fun schedule m hplay => ?_⟩
  have hm := hstart.steps hsite.toKeeps (steps_of_play hplay)
  have hmasked := hasked.steps (steps_of_play hplay)
  have hagree : ∀ o', m.result? 0 = some o' → o' = o ∧ ∀ k,
      m.ledger.records.get? k = ms.ledger.records.get? k ∧ commandsOf m.ran k = commandsOf ms.ran k := by
    intro o' ho'
    exact hmasked.agree Terms.fixed_fixing (hasked.steps hsteps) (reachable_coherent hm) (hsound hm)
      (reachable_coherent hms) (hsound hms) hacyclic ho' ho
  refine ⟨?_, fun hstuck => ?_, fun o' ho' => ?_⟩
  · have hS : ∀ r ∈ (m₀.start n).roots, ∀ k, ReflTransGen b.Needs r k → k ∈ hfinite.toFinset := by
      intro r hr k hk
      rw [(hasked.mem_roots_iff r).1 hr] at hk
      exact hfinite.mem_toFinset.2 hk
    have hle := length_play_le hsite.toKeeps (fun _ => hsite.follows) hS hstart hplay
    omega
  · obtain ⟨o', ho'⟩ := hmasked.result_of_stuck hm hstuck
    rw [ho', (hagree o' ho').1]
  · obtain ⟨rfl, hall⟩ := hagree o' ho'
    refine ⟨rfl, fun k => ?_, fun k => ?_, fun k => (hall k).2⟩
    · simp only [Ledger.status, session, (hall k).1]
    · simp only [Ledger.outcome?, session, (hall k).1]

/-- A name is built from a file by a command that succeeds, and no schedule ends otherwise. -/
theorem execute_agrees_paired : ∃ m₀, Machine.new (some 1) () = .ok m₀ ∧
    ∃ bound, ∀ schedule m,
      (m₀.start (lit "a")).play (.fixed .paired (fun n => n = lit "b") fun _ _ => none) schedule = some m →
      schedule.length ≤ bound ∧
      ((∀ i, m.step (.fixed .paired (fun n => n = lit "b") fun _ _ => none) i = none) →
        m.result? 0 = some none) := by
  let isFile : Name → Bool := fun n => n = lit "b"
  let site : Site Unit := .fixed .paired isFile fun _ _ => none
  let m₀ : Machine Unit := { slots := some 1, world := () }
  have hsite : site.Steady (fun _ => True) .paired isFile fun _ _ => none :=
    ⟨⟨fun _ _ _ => trivial, fun _ _ => trivial⟩, fun _ _ => rfl, fun _ _ _ => rfl⟩
  have hnew : Machine.new (some 1) () = .ok m₀ := rfl
  have hneeds : ∀ k, ReflTransGen Rulebook.paired.Needs (lit "a") k → k = lit "a" ∨ k = lit "b" := by
    intro k hk
    rcases hk.cases_tail with rfl | ⟨j, -, hj⟩
    · exact .inl rfl
    · exact .inr (Rulebook.needs_paired_iff.1 hj).2
  have hfinite : {k | ReflTransGen Rulebook.paired.Needs (lit "a") k}.Finite :=
    Set.Finite.subset (Set.toFinite {lit "a", lit "b"}) hneeds
  have hacyclic : ∀ k, ReflTransGen Rulebook.paired.Needs (lit "a") k →
      ¬ TransGen Rulebook.paired.Needs k k := by
    intro k _ hk
    obtain ⟨j, hkj, -⟩ := TransGen.head'_iff.1 hk
    obtain ⟨j', -, hjk⟩ := TransGen.tail'_iff.1 hk
    have hab : lit "a" = lit "b" :=
      (Rulebook.needs_paired_iff.1 hkj).1.symm.trans (Rulebook.needs_paired_iff.1 hjk).2
    exact absurd hab (by decide +kernel)
  obtain ⟨depth, o, s, -, bound, hall⟩ := execute_agrees hsite (w := ()) trivial hfinite hacyclic hnew
  have hrun : ((m₀.start (lit "a")).play site [0, 0, 0, 0, 1, 1, 1, 0, 0, 0, 0, 0, 0, 0, 0]).any
      (fun m => m.result? 0 = some none) = true := by decide +kernel
  obtain ⟨m, hm, ho⟩ := (Option.any_eq_true _ _).1 hrun
  obtain ⟨rfl, -⟩ := (hall _ m hm).2.2 none (of_decide_eq_true ho)
  exact ⟨m₀, hnew, bound, fun schedule m hp => ⟨(hall schedule m hp).1, (hall schedule m hp).2.1⟩⟩

end Machine

end Buildfile.Build
