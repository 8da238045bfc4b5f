import Buildfile.Proofs.Attested
import Buildfile.Proofs.Outcome
/-!
# The table of waits

What the waits of a build say at any moment, however the calls take turns and however the rules change. A name
is in the table only while it is being built and none of its commands was started, and what it waits for are
the dependencies that it was looked up with, of which there are some. Every call that has not returned stands
at the end of a chain of waits, one for each of its ancestors: so a search through the table misses none of
those who wait for the call. Once the requests from outside have returned, the table is empty.
-/

namespace Buildfile.Build

variable {cs : List Call} {i j : CallId} {c : Call} {p : Phase} {l : Ledger} {n a : Name}

/-! ## An owner waits for something -/

/-- The plan whose dependencies a call in this phase sees to. -/
def Phase.plan? : Phase → Option Plan
  | planned p | recorded p | waiting p _ | gathered p _ => some p
  | _ => none

theorem Phase.exists_plan?_of_awaited? {ds : List Name} (h : p.awaited? = some ds) :
    ∃ plan, p.plan? = some plan ∧ ds = plan.dependencies := by
  cases p with
  | recorded | waiting | gathered => exact ⟨_, rfl, (Option.some.inj h).symm⟩
  | _ => cases h

/-- Every call that sees to the dependencies of its plan has some to see to. -/
def Needing (cs : List Call) : Prop := ∀ c ∈ cs, ∀ plan, c.phase.plan? = some plan → plan.dependencies ≠ []

namespace Needing

theorem enter (h : Needing cs) (hc : cs[i]? = some c) (hp : ∀ plan, p.plan? = some plan → plan.dependencies ≠ []) :
    Needing (enterAt cs i p) := by
  intro c' hc' plan hplan
  obtain ⟨j, hj⟩ := List.getElem?_of_mem hc'
  rcases of_getElem?_enterAt hc hj with ⟨rfl, rfl⟩ | ⟨-, hj⟩
  · exact hp plan hplan
  · exact h c' (List.mem_of_getElem? hj) plan hplan

/-- A call moves on and sees to the same plan. -/
theorem enter_same (h : Needing cs) (hc : cs[i]? = some c) (hp : p.plan? = c.phase.plan?) :
    Needing (enterAt cs i p) := by
  refine h.enter hc ?_
  rw [hp]
  exact h c (List.mem_of_getElem? hc)

theorem append {ds : List Call} (h : Needing cs) (hd : ∀ c ∈ ds, c.phase = .requested) : Needing (cs ++ ds) := by
  intro c hc plan hplan
  rcases List.mem_append.1 hc with hc | hc
  · exact h c hc plan hplan
  · rw [hd c hc] at hplan
    cases hplan

end Needing

namespace Machine

variable {σ : Type} {site : Site σ} {ok : σ → Prop} {jobs : Option Int} {m m' : Machine σ}

/-- Only a look-up gives a call a plan to see to, and it does so only if there are dependencies. -/
theorem needing_moves (h : Needing m.calls) (hc : m.calls[i]? = some c) (hm : Moves site m i c m') :
    Needing m'.calls := by
  cases hm with
  | plan hp hr hd =>
    rw [enter_calls, noteIf_calls]
    refine h.enter hc ?_
    intro plan hplan
    cases hplan
    exact hd
  | record hp | gather hp => exact h.enter_same hc (by rw [hp]; rfl)
  | @spawn plan hp =>
    have happend : Needing (m.calls ++ plan.dependencies.map c.child) :=
      h.append fun _ => Call.phase_of_mem_children
    exact happend.enter_same (getElem?_append_of_eq_some hc _) (by rw [hp]; rfl)
  | queue | leave =>
    simp only [enter_calls, giveSlot_calls, noteIf_calls]
    exact h.enter hc nofun
  | acquire hp hs =>
    obtain ⟨free, rfl, -⟩ := eq_of_takeSlot hs
    exact h.enter hc nofun
  | own | join | refuse | inherit | find | miss | proceed | abandon | skip | exhaust | launch | pass | fail
  | publish => exact h.enter hc nofun

theorem reachable_needing (h : Reachable site ok jobs m) : Needing m.calls := by
  induction h with
  | new hm _ =>
    obtain ⟨free, rfl, -⟩ := eq_of_new hm
    exact nofun
  | next _ hn _ ih =>
    cases hn with
    | step hs =>
      obtain ⟨c, hc, hm⟩ := step_iff.1 hs
      exact needing_moves ih hc hm
    | start n => exact ih.append (by simp)
    | turn w => exact ih

end Machine

/-! ## A call stands at the end of a chain of waits -/

namespace Coherent

theorem isChain_waits (h : Coherent l cs) (hc : cs[j]? = some c) (hr : c.phase.result? = none) :
    (c.ancestors ++ [c.name]).IsChain l.waits.Edge := by
  generalize has : c.ancestors = as
  -- each ancestor has started the call behind it in the chain, and waits for it
  induction as using List.reverseRecOn generalizing j c with
  | nil => exact List.isChain_singleton _
  | append_singleton as a ih =>
    obtain ⟨i, q, plan, ids, hq, rfl, hqa, hp, -⟩ := h.parent hc hr has
    have hchain := ih hq (by rw [hp]; rfl) hqa
    have hedge := (h.parent_edge hc hr has).2
    rw [List.isChain_append]
    refine ⟨hchain, List.isChain_singleton _, ?_⟩
    simpa using hedge

theorem ancestor_waits (h : Coherent l cs) (hc : cs[j]? = some c) (hr : c.phase.result? = none)
    (ha : a ∈ c.ancestors) : l.waits.get? a ≠ none := by
  have hchain := h.isChain_waits hc hr
  obtain ⟨before, after, has⟩ := List.append_of_mem ha
  rw [has, List.append_assoc, List.cons_append] at hchain
  have hrest := hchain.right_of_append
  intro hnone
  cases after with
  | nil =>
    have hedge : l.waits.Edge a c.name := List.isChain_pair.1 hrest
    simp [Waits.Edge, hnone] at hedge
  | cons d after =>
    have hedge : l.waits.Edge a d := (List.isChain_cons_cons.1 hrest).1
    simp [Waits.Edge, hnone] at hedge

/-- While nobody is at work, no name is being built and nothing is waited for. -/
theorem idle (h : Coherent l cs) (hdone : ∀ (i : CallId) (c : Call), cs[i]? = some c → c.phase.result? ≠ none) :
    l.waits = {} ∧ ∀ n, l.records.get? n ≠ some .building := by
  have howner : ∀ (i : CallId) (c : Call), cs[i]? = some c → c.phase.owns ≠ true :=
    fun i c hc ho => hdone i c hc (Phase.result?_of_owns ho)
  constructor
  · refine Table.eq_empty_of_get? fun n => ?_
    cases hn : l.waits.get? n with
    | none => rfl
    | some ds =>
      obtain ⟨i, c, hc, -, hp⟩ := h.waits_owner hn
      exact absurd (Phase.owns_of_awaited? hp) (howner i c hc)
  · intro n hn
    obtain ⟨i, c, hc, -, ho⟩ := h.building_owner hn
    exact howner i c hc ho

end Coherent

/-! ## The waits of a build -/

namespace Course

open Machine

variable {σ : Type} {site : Site σ} {ok : σ → Prop} {jobs : Option Int} {m : Nat → Machine σ} {k : Nat}

/-- The owner of a name that is in the table still sees to its dependencies. -/
theorem planned_of_waits (h : Course site ok jobs m) {ds : List Name} (hn : (m k).ledger.waits.get? n = some ds) :
    ∃ plan, ds = plan.dependencies ∧ plan.dependencies ≠ [] ∧ Planned (Happened site m k) n plan ∧
      commandsOf (m k).ran n = [] ∧ (m k).ledger.records.get? n = some .building := by
  obtain ⟨i, c, hc, rfl, hp⟩ := (h.coherent k).waits_owner hn
  have hbuilding := (h.coherent k).owner_building hc (Phase.owns_of_awaited? hp)
  obtain ⟨plan, hplan, rfl⟩ := Phase.exists_plan?_of_awaited? hp
  have hsome := reachable_needing (h.reachable k) c (List.mem_of_getElem? hc) plan hplan
  have hphase := (h.attested k).phase hc
  have hattested : Planned (Happened site m k) c.name plan ∧ commandsOf (m k).ran c.name = [] := by
    cases hph : c.phase with
    | planned | recorded | waiting =>
      rw [hph] at hplan hphase
      cases hplan
      exact hphase
    | gathered =>
      rw [hph] at hplan hphase
      cases hplan
      exact ⟨hphase.1, hphase.2.1⟩
    | _ =>
      rw [hph] at hplan
      cases hplan
  exact ⟨plan, rfl, hsome, hattested.1, hattested.2, hbuilding⟩

/-- A name that was planned had a rule that stood for it when it was looked up. -/
theorem exists_rule_of_planned {rulebook : σ → Rulebook} {files : σ → Name → Bool}
    (resolves : ∀ w n, site.resolve w n = Build.resolve (rulebook w) (files w) n) {plan : Plan}
    (hplan : Planned (Happened site m k) n plan) : ∃ j < k, ∃ r pattern,
      (m j).Does site (.lookUp n (.planned (.ofRule r n) pattern)) (m (j + 1)) ∧
      (rulebook (m j).world).rule? n = some r ∧ plan = .ofRule r n := by
  obtain ⟨pattern, j, hj, hd⟩ := hplan
  obtain ⟨-, -, -, -, -, hresolve, -⟩ := hd.of_lookUp
  rw [resolves] at hresolve
  obtain ⟨r, hr, rfl⟩ := Option.map_eq_some_iff.1 (Rulebook.plan?_of_resolve hresolve)
  exact ⟨j, hj, r, pattern, hd, hr, rfl⟩

/-- At every moment of a build, whatever changes around it:

* a name that is in the table of waits is being built, none of its commands was started, and it waits for the
  dependencies of the rule that it was looked up with, which has some;
* of a call that has not returned, each ancestor is in the table and waits for the next one, the last for the
  name of the call;
* if the requests from outside have returned, in whatever way, the table is empty and no name is being built. -/
theorem waits_exact {rulebook : σ → Rulebook} {files : σ → Name → Bool}
    (resolves : ∀ w n, site.resolve w n = Build.resolve (rulebook w) (files w) n) (h : Course site ok jobs m)
    (k : Nat) :
    (∀ n ds, (m k).ledger.waits.get? n = some ds →
      (m k).ledger.status n = .inProgress ∧ commandsOf (m k).ran n = [] ∧ ds ≠ [] ∧
      ∃ j < k, ∃ r pattern, (m j).Does site (.lookUp n (.planned (.ofRule r n) pattern)) (m (j + 1)) ∧
        (rulebook (m j).world).rule? n = some r ∧ ds = r.dependenciesFor n) ∧
    (∀ (i : CallId) (c : Call), (m k).calls[i]? = some c → c.phase.result? = none →
      (∀ a ∈ c.ancestors, (m k).ledger.waits.get? a ≠ none) ∧
      (c.ancestors ++ [c.name]).IsChain (m k).ledger.waits.Edge) ∧
    ((∀ (i : CallId) (c : Call), (m k).calls[i]? = some c → c.ancestors = [] → c.phase.result? ≠ none) →
      (m k).ledger.waits = {} ∧ ∀ n, (m k).ledger.status n ≠ .inProgress) := by
  have hco := h.coherent k
  refine ⟨?_, ?_, ?_⟩
  · intro n ds hn
    obtain ⟨plan, rfl, hsome, hplan, hran, hbuilding⟩ := h.planned_of_waits hn
    obtain ⟨j, hj, r, pattern, hd, hr, rfl⟩ := exists_rule_of_planned resolves hplan
    exact ⟨Ledger.status_eq_inProgress_iff.2 hbuilding, hran, hsome, j, hj, r, pattern, hd, hr, rfl⟩
  · intro i c hc hr
    exact ⟨fun a => hco.ancestor_waits hc hr, hco.isChain_waits hc hr⟩
  · intro hroots
    obtain ⟨hwaits, hrecords⟩ := hco.idle (finished_of_roots hco hroots)
    exact ⟨hwaits, fun n hn => hrecords n (Ledger.status_eq_inProgress_iff.1 hn)⟩

/-- Of three names in a row each waits for the next, until the command of the last one crashes. -/
theorem waits_exact_stacked :
    let site : Site Unit := Site.fixed .stacked (fun _ => false) fun _ _ => some (.crash (.invalid (lit "no shell")))
    ∃ m : Nat → Machine Unit, Course site (fun _ => True) none m ∧
      ((m 9).ledger.waits.get? (lit "b") = some [lit "c"] ∧ commandsOf (m 9).ran (lit "b") = [] ∧
        ∃ j < 9, ∃ r, Rulebook.stacked.rule? (lit "b") = some r ∧ [lit "c"] = r.dependenciesFor (lit "b")) ∧
      [lit "a", lit "b", lit "c"].IsChain (m 9).ledger.waits.Edge ∧
      (m 22).result? 0 = some (some (.crash (.invalid (lit "no shell")))) ∧ (m 22).ledger.waits = {} := by
  intro site
  let deeds : List (Deed Unit) := .start (lit "a") ::
    [0, 0, 0, 0, 1, 1, 1, 1, 2, 2, 2, 2, 2, 2, 2, 1, 1, 1, 0, 0, 0].map .step
  let m₀ : Machine Unit := { world := () }
  have hcourse : Course site (fun _ => True) none (m₀.after site deeds) :=
    .of_deeds (w := ()) rfl deeds fun _ => trivial
  have hwaits := @waits_exact Unit site _ none _ (fun _ => .stacked) (fun _ _ => false) (fun _ _ => rfl) hcourse
  obtain ⟨hentries, hcalls, -⟩ := hwaits 9
  obtain ⟨-, -, hidle⟩ := hwaits 22
  have hb : (m₀.after site deeds 9).ledger.waits.get? (lit "b") = some [lit "c"] := by decide +kernel
  obtain ⟨-, hran, -, j, hj, r, -, -, hr, hds⟩ := hentries _ _ hb
  have hc : (m₀.after site deeds 9).calls[2]? = some ⟨lit "c", [lit "a", lit "b"], .requested⟩ := by decide +kernel
  refine ⟨_, hcourse, ⟨hb, hran, j, hj, r, hr, hds⟩, (hcalls 2 _ hc rfl).2, by decide +kernel, ?_⟩
  refine (hidle ?_).1
  intro i c hi hancestors
  have hall : (m₀.after site deeds 22).calls.all (fun c => c.phase.result?.isSome) = true := by decide +kernel
  have hsome := List.all_eq_true.1 hall c (List.mem_of_getElem? hi)
  exact Option.isSome_iff_ne_none.1 hsome

end Course

end Buildfile.Build
