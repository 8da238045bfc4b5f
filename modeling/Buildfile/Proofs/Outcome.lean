import Buildfile.Proofs.Soundness
/-!
# Outcomes do not depend on the schedule

When every call of a machine has returned, the names that were requested are those that the roots
reach, and each has ended as `Terms.Built` derives it from the rules, the files and the commands
alone (`exists_settled`). If these settle which commands succeed, `outcome_decided` reads off what
has become of each name: it is done if it can be built and failed if it cannot, and its commands were
started as far as they should be.

Different schedules may report a cycle at different names. Every name at which one may be reported is
on a cycle, though, and no such name can be built, so this does not show in the status of any name.
-/

namespace Buildfile.Build

open Relation

variable {σ : Type} {site : Site σ} {m : Machine σ} {t : Terms} {k : Name}

/-- In this state the site resolves names by these rules and files, and these commands succeed. -/
structure Site.Decides (site : Site σ) (b : Rulebook) (isFile : Name → Bool)
    (succeeds : Name → Command → Bool) (w : σ) : Prop where
  resolves (n : Name) : site.resolve w n = Build.resolve b isFile n
  performs (n : Name) (c : Command) : (site.perform n c w).1 = none ↔ succeeds n c = true

namespace Machine

/-- Every call has returned. -/
def Finished (m : Machine σ) : Prop :=
  ∀ (i : CallId) (c : Call), m.calls[i]? = some c → c.phase.result? ≠ none

/-- If the requests from outside have returned, so has every call. -/
theorem finished_of_roots (hco : Coherent m.ledger m.calls)
    (hroots : ∀ (i : CallId) (c : Call), m.calls[i]? = some c → c.ancestors = [] → c.phase.result? ≠ none) :
    m.Finished := by
  intro i c hc hr
  generalize has : c.ancestors = as
  induction as using List.reverseRecOn generalizing i c with
  | nil => exact hroots i c hc has hr
  | append_singleton as a ih =>
    -- the parent of a call that has not returned has not returned either
    obtain ⟨j, q, p, ids, hq, -, hqa, hp, -⟩ := hco.parent hc hr has
    exact ih j q hq (by rw [hp]; rfl) hqa

/-- Every name that was requested has ended in a way that the terms allow. -/
theorem exists_settled (hco : Coherent m.ledger m.calls) (hs : Sound t m.ledger.records m.ran m.calls)
    (hdone : m.Finished) (hk : m.ledger.records.get? k ≠ none) :
    ∃ o, m.ledger.records.get? k = some (.settled o) ∧ t.Built k o (commandsOf m.ran k) := by
  cases hr : m.ledger.records.get? k with
  | none => exact absurd hr hk
  | some r =>
    cases r with
    | building =>
      obtain ⟨i, c, hc, -, ho⟩ := hco.building_owner hr
      exact absurd (Phase.result?_of_owns ho) (hdone i c hc)
    | settled o => exact ⟨o, rfl, (hs.settled hr).1⟩

/-- The names that were requested are those that the roots reach. -/
theorem records_ne_none_iff (hco : Coherent m.ledger m.calls) (hs : Sound t m.ledger.records m.ran m.calls)
    (hdone : m.Finished) :
    m.ledger.records.get? k ≠ none ↔ ∃ r ∈ m.roots, ReflTransGen t.rulebook.Needs r k := by
  constructor
  · intro hk
    obtain ⟨i, c, hc, rfl⟩ := hs.asked hk
    exact exists_root hs hc
  · rintro ⟨r, hr, hpath⟩
    -- along the path, for a settled name has had all that it needs requested
    induction hpath with
    | refl =>
      obtain ⟨i, c, hc, -, rfl⟩ := mem_roots.1 hr
      refine hco.admitted hc fun hp => hdone i c hc ?_
      rw [hp]
      rfl
    | tail _ hneeds ih =>
      obtain ⟨o, ho, -⟩ := exists_settled hco hs hdone ih
      exact (hs.settled ho).2 _ hneeds

variable {b : Rulebook} {isFile : Name → Bool} {succeeds : Name → Command → Bool} {jobs : Option Int}

/-- The terms that say which names are files and which commands succeed. -/
def deciding (b : Rulebook) (isFile : Name → Bool) (succeeds : Name → Command → Bool) : Terms where
  rulebook := b
  isFile n v := isFile n = v
  performs n c o := o = none ↔ succeeds n c = true

theorem decides_deciding : (deciding b isFile succeeds).Decides isFile succeeds := ⟨id, id⟩

theorem hold_deciding {w : σ} (h : site.Decides b isFile succeeds w) :
    (deciding b isFile succeeds).Hold site w :=
  ⟨⟨isFile, fun _ => rfl, h.resolves⟩, h.performs⟩

/-- Let the rules, the files and the success of each command stay the same, and let every call have
returned. Then the names that were requested are those that the roots reach. Such a name is done if
it can be built, and failed if it cannot; so it failed if it reaches a cycle. All its commands were
started if it is done, none if it needs a name that cannot be built, and else those up to the first
that fails. A call has succeeded exactly if its name can be built. -/
theorem outcome_decided (h : Reachable site (site.Decides b isFile succeeds) jobs m) (hdone : m.Finished) :
    (∀ k, m.ledger.status k ≠ .unstarted ↔ ∃ r ∈ m.roots, ReflTransGen b.Needs r k) ∧
    (∀ k, m.ledger.status k ≠ .unstarted →
      (b.Buildable isFile succeeds k → m.ledger.status k = .done) ∧
      (¬ b.Buildable isFile succeeds k → m.ledger.status k = .failed) ∧
      ((∃ n, ReflTransGen b.Needs k n ∧ TransGen b.Needs n n) → m.ledger.status k = .failed)) ∧
    (∀ k, (m.ledger.status k = .unstarted → commandsOf m.ran k = []) ∧
      (m.ledger.status k = .done → commandsOf m.ran k = b.commandsFor k) ∧
      ((∃ d, b.Needs k d ∧ ¬ b.Buildable isFile succeeds d) → commandsOf m.ran k = []) ∧
      (m.ledger.status k = .failed → (∀ d, b.Needs k d → b.Buildable isFile succeeds d) →
        commandsOf m.ran k = Rulebook.attempted (succeeds k) (b.commandsFor k))) ∧
    ∀ i c o, m.calls[i]? = some c → m.result? i = some o →
      (o = none ↔ b.Buildable isFile succeeds c.name) := by
  have hco := reachable_coherent h
  have hs := (reachable_sound (h.mono fun _ => hold_deciding)).1
  have hdec : (deciding b isFile succeeds).Decides isFile succeeds := decides_deciding
  have hrec : ∀ {k}, m.ledger.status k ≠ .unstarted → ∃ o, m.ledger.records.get? k = some (.settled o) ∧
      (deciding b isFile succeeds).Built k o (commandsOf m.ran k) := fun hk =>
    exists_settled hco hs hdone (Ledger.status_eq_unstarted_iff.not.1 hk)
  refine ⟨fun k => ?_, fun k hk => ?_,
    fun k => ⟨fun hk => ?_, fun hk => ?_, fun hk => ?_, fun hk hdeps => ?_⟩, fun i c o hc ho => ?_⟩
  · rw [ne_eq, Ledger.status_eq_unstarted_iff]
    exact records_ne_none_iff hco hs hdone
  · obtain ⟨o, ho, hbuilt⟩ := hrec hk
    have hiff : o = none ↔ b.Buildable isFile succeeds k := (hbuilt.decided hdec).1
    rw [Ledger.status_of_settled ho]
    refine ⟨fun hbuild => if_pos (hiff.2 hbuild), fun hnot => if_neg (hiff.not.2 hnot), ?_⟩
    rintro ⟨n, hpath, hcycle⟩
    exact if_neg fun hnone => (hiff.1 hnone).acyclic hpath hcycle
  · exact hs.idle (Ledger.status_eq_unstarted_iff.1 hk)
  · obtain ⟨o, ho, hbuilt⟩ := hrec (k := k) (by simp [hk])
    rw [Ledger.status_of_settled ho] at hk
    obtain rfl : o = none := by
      by_contra hne
      rw [if_neg hne] at hk
      cases hk
    exact hbuilt.ran_of_none hdec
  · by_cases hreq : m.ledger.status k = .unstarted
    · exact hs.idle (Ledger.status_eq_unstarted_iff.1 hreq)
    · obtain ⟨o, -, hbuilt⟩ := hrec hreq
      exact (hbuilt.decided hdec).2.1 hk
  · obtain ⟨o, -, hbuilt⟩ := hrec (k := k) (by simp [hk])
    exact (hbuilt.decided hdec).2.2 hdeps
  · obtain ⟨c', hc', hp⟩ := of_result? ho
    rw [hc, Option.some.injEq] at hc'
    subst hc'
    rcases hs.phase_eq hc hp with ⟨chain, hcycle, rfl⟩ | ⟨ran, hbuilt⟩
    · exact ⟨nofun, fun hbuild => absurd hcycle.transGen hbuild.not_transGen⟩
    · exact (hbuilt.decided hdec).1

/-- A name is built from a file by a command that succeeds. -/
theorem outcome_decided_paired : ∃ m₀ m, Machine.new (some 2) () = .ok m₀ ∧
    (m₀.start (lit "a")).play (.fixed .paired (fun n => n = lit "b") fun _ _ => none)
      [0, 0, 0, 0, 1, 1, 1, 0, 0, 0, 0, 0, 0, 0, 0] = some m ∧ m.Finished ∧
    m.ledger.status (lit "a") = .done ∧ commandsOf m.ran (lit "a") = [{ text := lit "make a" }] := by
  let isFile : Name → Bool := fun n => n = lit "b"
  let site : Site Unit := .fixed .paired isFile fun _ _ => none
  let m₀ : Machine Unit := { slots := some 2, world := () }
  have hdec : ∀ w, site.Decides .paired isFile (fun _ _ => true) w := fun _ =>
    ⟨fun _ => rfl, fun _ _ => by simp [site, Site.fixed]⟩
  have hnew : Machine.new (some 2) () = .ok m₀ := rfl
  have hroot : Reachable site (site.Decides .paired isFile fun _ _ => true) (some 2) (m₀.start (lit "a")) :=
    (Reachable.new hnew (hdec _)).next (.start _) (hdec _)
  have hrun : ((m₀.start (lit "a")).play site [0, 0, 0, 0, 1, 1, 1, 0, 0, 0, 0, 0, 0, 0, 0]).any (fun m =>
      m.calls.all (fun c => c.phase.result?.isSome) &&
        decide (m.ledger.status (lit "a") ≠ .unstarted)) = true := by
    decide +kernel
  obtain ⟨m, hm, hc⟩ := (Option.any_eq_true _ _).1 hrun
  rw [Bool.and_eq_true] at hc
  have hdone : m.Finished := fun i c hi => by
    simpa [Option.isSome_iff_ne_none] using List.all_eq_true.1 hc.1 c (List.mem_of_getElem? hi)
  obtain ⟨-, hstatus, hran, -⟩ :=
    outcome_decided (hroot.steps ⟨fun _ _ _ => hdec _, fun _ _ => hdec _⟩ (steps_of_play hm)) hdone
  have hb : Rulebook.paired.Buildable isFile (fun _ _ => true) (lit "b") :=
    .file (by decide +kernel) (by decide +kernel)
  have ha : Rulebook.paired.Buildable isFile (fun _ _ => true) (lit "a") := by
    refine (Rulebook.buildable_iff_of_plan? (p := ⟨[lit "b"], [{ text := lit "make a" }]⟩)
      (by decide +kernel)).2 ⟨?_, fun _ _ => rfl⟩
    rintro d hd
    rw [List.mem_singleton] at hd
    exact hd ▸ hb
  have hd := (hstatus (lit "a") (of_decide_eq_true hc.2)).1 ha
  refine ⟨m₀, m, hnew, hm, hdone, hd, ?_⟩
  rw [(hran (lit "a")).2.1 hd]
  decide +kernel

end Machine

end Buildfile.Build
