import Buildfile.Proofs.Soundness
/-!
# A refusal shows a cycle

A request is refused on the strength of the waits that are recorded at that moment, while other calls
record and forget theirs. `refusal_genuine` says that the chain it is refused with leads along needs
and closes a cycle nevertheless: the ancestors of a call that has not returned are linked by needs,
and a wait that is recorded is a need. So where no cycle can be reached no request is refused.
-/

namespace Buildfile.Build.Machine

open Relation

variable {σ : Type} {site : Site σ} {m m' : Machine σ} {b : Rulebook} {jobs : Option Int}
  {i : CallId} {c : Call}

/-- A request that ends in the step of its admission was refused. -/
theorem refuse_of_result? (hc : m.calls[i]? = some c) (hp : c.phase = .requested)
    (hs : m.step site i = some m') {o : Outcome} (ho : m'.result? i = some o) :
    ∃ e, m.ledger.admission c.name c.ancestors = .refuse e ∧ o = some (.error e) := by
  obtain ⟨c', hc', hm⟩ := step_iff.1 hs
  rw [hc, Option.some.injEq] at hc'
  subst hc'
  cases hm with
  | own | join => simp [result?, hc, Phase.result?] at ho
  | @refuse e _ ha => exact ⟨e, ha, by simpa [result?, hc, Phase.result?, eq_comm] using ho⟩
  | inherit hp' | plan hp' | queue hp' | find hp' | miss hp' | record hp' | spawn hp' | gather hp'
  | proceed hp' | abandon hp' | skip hp' | acquire hp' | exhaust hp' | launch hp' | pass hp' | fail hp'
  | leave hp' | publish hp' =>
    rw [hp] at hp'
    cases hp'

/-- A failure in which no cycle is reported, from under any number of dependencies. -/
def ReportsNoCycle (o : Outcome) : Prop := ∀ e, o = some (.error e) → ∀ k chain, e.root ≠ .circular k chain

/-- Whatever files come and go and however commands end: if a request is refused, the chain of its
refusal ends with its name, leads along needs and closes a cycle that the rulebook has. If no name
requested from outside reaches a cycle, no request is refused. And a cycle that a call reports from
under any number of dependencies is there as well, unless a command reports one. -/
theorem refusal_genuine (h : Reachable site (site.Follows b) jobs m) :
    (∀ i c m' n chain, m.calls[i]? = some c → c.phase = .requested → m.step site i = some m' →
      m'.result? i = some (some (.error (.circular n chain))) → n = c.name ∧ b.Cycle n chain) ∧
    ((∀ r ∈ m.roots, ∀ k, ReflTransGen b.Needs r k → ¬ TransGen b.Needs k k) →
      ∀ i c m', m.calls[i]? = some c → c.phase = .requested → m.step site i = some m' → m'.result? i = none) ∧
    ((∀ w, site.Follows b w → ∀ n c, ReportsNoCycle (site.perform n c w).1) →
      ∀ i e k chain, m.result? i = some (some (.error e)) → e.root = .circular k chain →
        b.Cycle k chain ∧ ∃ r ∈ m.roots, ReflTransGen b.Needs r k) := by
  have hco := reachable_coherent h
  have hs := sound_of_follows (fun _ _ _ => True) h fun _ _ _ _ => trivial
  refine ⟨fun i c m' n chain hc hp hstep ho => ?_, fun hacyclic i c m' hc hp hstep => ?_,
    fun hperf i e k chain ho hroot => ?_⟩
  · obtain ⟨e, ha, ho⟩ := refuse_of_result? hc hp hstep ho
    obtain ⟨rfl, hcycle⟩ := hs.cycle_of_refuse hco hc ha
    cases ho
    exact ⟨rfl, hcycle⟩
  · cases ho : m'.result? i with
    | none => rfl
    | some o =>
      obtain ⟨e, ha, -⟩ := refuse_of_result? hc hp hstep ho
      obtain ⟨-, hcycle⟩ := hs.cycle_of_refuse hco hc ha
      obtain ⟨r, hr, hpath⟩ := exists_root hs hc
      exact absurd hcycle.transGen (hacyclic r hr c.name hpath)
  · have hs' := sound_of_follows (fun _ _ o => ReportsNoCycle o) h hperf
    obtain ⟨c, hc, hp⟩ := of_result? ho
    obtain ⟨r, hr, hpath⟩ := exists_root hs' hc
    rcases hs'.phase_eq hc hp with ⟨chain', hcycle, heq⟩ | ⟨ran, hbuilt⟩
    · cases heq
      cases hroot
      exact ⟨hcycle, r, hr, hpath⟩
    · -- the report came up from a dependency
      obtain ⟨hcycle, hpath'⟩ :=
        hbuilt.cycle_of_root (fun _ _ e (he : ReportsNoCycle _) => he e rfl) rfl hroot
      exact ⟨hcycle, r, hr, hpath.trans hpath'⟩

/-- Two names that need each other are requested side by side, and a request for one of them is refused. -/
theorem refusal_genuine_crossing : ∃ m₀ m m', Machine.new none () = .ok m₀ ∧
    ((m₀.start (lit "a")).start (lit "b")).play (.fixed .crossing (fun _ => false) fun _ _ => none)
      [0, 1, 0, 1, 0, 1, 0, 1] = some m ∧
    m.step (.fixed .crossing (fun _ => false) fun _ _ => none) 2 = some m' ∧
    m'.result? 2 = some (some (.error (.circular (lit "b") [lit "a", lit "b"]))) ∧
    Rulebook.crossing.Cycle (lit "b") [lit "a", lit "b"] := by
  let site : Site Unit := .fixed .crossing (fun _ => false) fun _ _ => none
  let m₀ : Machine Unit := { world := () }
  have hfollows : ∀ w, site.Follows .crossing w := Site.follows_fixed _ _ _
  have hnew : Machine.new none () = .ok m₀ := rfl
  have hroots : Reachable site (site.Follows .crossing) none ((m₀.start (lit "a")).start (lit "b")) :=
    ((Reachable.new hnew (hfollows _)).next (.start _) (hfollows _)).next (.start _) (hfollows _)
  have hrun : (((m₀.start (lit "a")).start (lit "b")).play site [0, 1, 0, 1, 0, 1, 0, 1]).any (fun m =>
      (m.calls[2]?.any fun c => c.phase = .requested) && (m.step site 2).any fun m' =>
        m'.result? 2 = some (some (.error (.circular (lit "b") [lit "a", lit "b"])))) = true := by
    decide +kernel
  obtain ⟨m, hm, hc⟩ := (Option.any_eq_true _ _).1 hrun
  rw [Bool.and_eq_true] at hc
  obtain ⟨c, hc₂, hp⟩ := (Option.any_eq_true _ _).1 hc.1
  obtain ⟨m', hs, ho⟩ := (Option.any_eq_true _ _).1 hc.2
  have ho := of_decide_eq_true ho
  have hreach := hroots.steps ⟨fun _ _ _ => hfollows _, fun _ _ => hfollows _⟩ (steps_of_play hm)
  have hcycle := ((refusal_genuine hreach).1 2 c m' _ _ hc₂ (of_decide_eq_true hp) hs ho).2
  exact ⟨m₀, m, m', hnew, hm, hs, ho, hcycle⟩

end Buildfile.Build.Machine
