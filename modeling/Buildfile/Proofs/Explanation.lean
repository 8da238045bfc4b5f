import Buildfile.Proofs.Agreement
import Buildfile.Proofs.Order
/-!
# A failure explains itself

An error that comes back to a request from outside may have come up through any number of names, some of
them built on behalf of other requests. `Explained` says what can be read off it all the same: its path
leads from the name that was requested from dependency to dependency, every one of them the first that
cannot be built of the name before, and the innermost cause is a true statement about the last.
`failure_explained` shows this for every interleaving, by induction on the error along the records of
the names on its path.
-/

namespace Buildfile

open Build Relation

/-- The dependency that an error blames last, or `n` if it blames none. -/
def BuildError.culprit (n : Name) (e : BuildError) : Name := (e.path.map (·.2)).getLastD n

namespace Build

variable {σ : Type} {site : Site σ} {b : Rulebook} {isFile : Name → Bool} {outcome : Name → Command → Outcome}
  {jobs : Option Int} {n d : Name} {e cause : BuildError} {l : Ledger}

/-! ## What an error says -/

/-- The command succeeds. -/
def passes (outcome : Name → Command → Outcome) (n : Name) (c : Command) : Bool := (outcome n c).isNone

/-- `e` says truly what is wrong with `n` itself. -/
inductive Cause (b : Rulebook) (isFile : Name → Bool) (outcome : Name → Command → Outcome) (n : Name) :
    BuildError → Prop
  /-- It has no rule, no pattern matches it, and it is no file. -/
  | unknown : b.get? n = none → b.match? n = none → isFile n = false → Cause b isFile outcome n (.unknownTarget n)
  /-- This is the first of its commands that fails. -/
  | command {passed rest : List Command} {c : Command} {status : Option Int} {reason : Option Text} :
      b.commandsFor n = passed ++ c :: rest → (∀ c' ∈ passed, outcome n c' = none) →
      outcome n c = some (.error (.commandFailed c.text (some n) status reason)) →
      Cause b isFile outcome n (.commandFailed c.text (some n) status reason)

/-- What an error that is reported for `n` says of the build. -/
structure Explained (b : Rulebook) (isFile : Name → Bool) (outcome : Name → Command → Outcome) (l : Ledger)
    (n : Name) (e : BuildError) : Prop where
  starts : ∀ a ∈ e.path.head?, a.1 = n
  /-- Each dependency that is blamed is the next target. -/
  linked : e.path.IsChain fun a a' => a.2 = a'.1
  /-- It is the first in the order of the rule that cannot be built. -/
  blames : ∀ a ∈ e.path, ∃ r before after, b.rule? a.1 = some r ∧
    r.dependenciesFor a.1 = before ++ a.2 :: after ∧
    (∀ d ∈ before, b.Buildable isFile (passes outcome) d) ∧ ¬ b.Buildable isFile (passes outcome) a.2
  failed : ∀ a ∈ e.path, l.status a.1 = .failed
  distinct : (e.path.map (·.1)).Nodup
  /-- The innermost cause is about the last of them, unless that is on a cycle. -/
  root : Cause b isFile outcome (e.culprit n) e.root ∨
    ∃ chain, e.root = .circular (e.culprit n) chain ∧ TransGen b.Needs (e.culprit n) (e.culprit n)

theorem Cause.explained (h : Cause b isFile outcome n e) : Explained b isFile outcome l n e := by
  have hpath : e.path = [] := by cases h <;> rfl
  have hroot : e.root = e := by cases h <;> rfl
  have hself : e.culprit n = n := by rw [BuildError.culprit, hpath]; rfl
  refine ⟨?_, ?_, ?_, ?_, ?_, .inl (by rwa [hroot, hself])⟩ <;> simp [hpath]

theorem Explained.of_cycle {chain : List Name} (h : TransGen b.Needs n n) :
    Explained b isFile outcome l n (.circular n chain) where
  starts := nofun
  linked := .nil
  blames := nofun
  failed := nofun
  distinct := .nil
  root := .inr ⟨chain, rfl, h⟩

/-- An error is passed on from a dependency to a name that its path does not hold. -/
theorem Explained.pass_on (h : Explained b isFile outcome l d cause) {r : Rule} {before after : List Name}
    (hr : b.rule? n = some r) (hdeps : r.dependenciesFor n = before ++ d :: after)
    (hbefore : ∀ k ∈ before, b.Buildable isFile (passes outcome) k)
    (hd : ¬ b.Buildable isFile (passes outcome) d) (hn : l.status n = .failed)
    (hnew : n ∉ cause.path.map (·.1)) : Explained b isFile outcome l n (.dependencyFailed n d cause) where
  starts := by
    intro a ha
    cases ha
    rfl
  linked := List.isChain_cons.2 ⟨fun a ha => (h.starts a ha).symm, h.linked⟩
  blames := by
    intro a ha
    rcases List.mem_cons.1 ha with rfl | ha
    · exact ⟨r, before, after, hr, hdeps, hbefore, hd⟩
    · exact h.blames a ha
  failed := by
    intro a ha
    rcases List.mem_cons.1 ha with rfl | ha
    · exact hn
    · exact h.failed a ha
  distinct := List.nodup_cons.2 ⟨hnew, h.distinct⟩
  root := by
    have hculprit : (BuildError.dependencyFailed n d cause).culprit n = cause.culprit d := List.getLastD_cons
    rw [hculprit]
    exact h.root

/-! ## What is on record -/

theorem Terms.decides_fixing : (Terms.fixing b isFile outcome).Decides isFile (passes outcome) :=
  ⟨id, fun h => by rw [passes, Option.isNone_iff_eq_none, ← h]⟩

namespace Course

open Machine

variable {m : Nat → Machine σ} {k : Nat}

section Records

variable (h : Course site ((Terms.fixing b isFile outcome).Hold site) jobs m)

include h

/-- A command ends as its outcome says. -/
theorem outcome_of_finish {started : List Command} {o : Outcome}
    (hf : Happened site m k (.finish n started o)) :
    ∃ passed command, started = passed ++ [command] ∧ outcome n command = o := by
  obtain ⟨j, -, hd⟩ := hf
  obtain ⟨i, c, command, rest, hc, rfl, hp, rfl, ho, -⟩ := hd.of_finish
  obtain ⟨passed, hran, -⟩ := (h.attested j).phase_eq hc hp
  exact ⟨passed, command, hran, ((h.within j).performs c.name command).trans ho⟩

theorem outcome_of_underway {recs : Table Name Record} {passed rest : List Command}
    (hu : Underway (Happened site m k) recs n passed rest) : ∀ c ∈ passed, outcome n c = none := by
  intro c hc
  -- `c` ended when it was the last that had been started
  obtain ⟨pre, post, rfl⟩ := List.append_of_mem hc
  have hpre : pre ++ [c] <+: pre ++ c :: post := ⟨post, by simp⟩
  obtain ⟨passed, command, heq, ho⟩ := h.outcome_of_finish (hu.passed (by simp) hpre)
  obtain ⟨-, hlast⟩ := List.append_inj' heq rfl
  cases hlast
  exact ho

theorem buildable_iff_of_settled {o : Outcome} (hr : (m k).ledger.records.get? n = some (.settled o)) :
    o = none ↔ b.Buildable isFile (passes outcome) n :=
  (((reachable_sound (h.reachable k)).1.settled hr).1.decided Terms.decides_fixing).1

/-- A name that was not found is none of those that are files or have a rule. -/
theorem cause_of_missing (hm : Happened site m k (.lookUp n .missing)) :
    Cause b isFile outcome n (.unknownTarget n) := by
  obtain ⟨j, -, hd⟩ := hm
  obtain ⟨-, -, -, -, -, hr, -⟩ := hd.of_lookUp
  obtain ⟨isFile', hfile, hres⟩ := (h.within j).resolves
  obtain ⟨hplan, hf⟩ := Rulebook.of_resolve_missing ((hres n).symm.trans hr)
  have hrule : (b.get? n).or (b.match? n) = none := Option.map_eq_none_iff.1 hplan
  obtain ⟨hget, hmatch⟩ := Option.or_eq_none_iff.1 hrule
  exact .unknown hget hmatch ((hfile n).trans hf)

/-- A request is refused only for a name that is on a cycle, and only on behalf of another. -/
theorem of_refuse {i : CallId} (hr : Happened site m k (.refuse i n e)) :
    ∃ chain, e = .circular n chain ∧ TransGen b.Needs n n ∧
      ∀ c, (m k).calls[i]? = some c → c.ancestors ≠ [] := by
  obtain ⟨j, hj, hd⟩ := hr
  obtain ⟨c, hc, rfl, -, ha, -⟩ := hd.of_refuse
  obtain ⟨rfl, hcycle⟩ := (reachable_sound (h.reachable j)).1.cycle_of_refuse (h.coherent j) hc ha
  refine ⟨_, rfl, hcycle.transGen, fun c' hc' hnil => ?_⟩
  obtain ⟨c'', hc'', -, has⟩ := h.continues (Nat.le_of_lt hj) i c hc
  rw [hc', Option.some.injEq] at hc''
  obtain ⟨a, ha, -⟩ := hcycle.back
  rw [← has, ← hc'', hnil] at ha
  cases ha

variable (hrun : ∀ n c e, outcome n c = some (.error e) →
  ∃ status reason, e = .commandFailed c.text (some n) status reason)

include hrun

/-- An error on record is about the name itself, or about the first dependency that cannot be built: then
it passes on the record of that dependency, or the refusal of a request for it. -/
theorem error_cases (hr : (m k).ledger.records.get? n = some (.settled (some (.error e)))) :
    Cause b isFile outcome n e ∨
    ∃ r before d after cause, e = .dependencyFailed n d cause ∧ b.rule? n = some r ∧
      r.dependenciesFor n = before ++ d :: after ∧ (∀ a ∈ before, b.Buildable isFile (passes outcome) a) ∧
      ¬ b.Buildable isFile (passes outcome) d ∧
      ((m k).ledger.records.get? d = some (.settled (some (.error cause))) ∨
        ∃ chain, cause = .circular d chain ∧ TransGen b.Needs d d) := by
  have hfollows : Course site (site.Follows b) jobs m := h.mono fun _ hw => hw.follows
  have hend := (h.attested k).settled hr
  generalize commandsOf (m k).ran n = ran at hend
  cases hend with
  | missing hm => exact .inl (h.cause_of_missing hm)
  | @broken passed rest command f hu hf =>
    -- the command that failed is the last that was started
    obtain ⟨passed', command', heq, ho⟩ := h.outcome_of_finish hf
    obtain ⟨-, hlast⟩ := List.append_inj' heq rfl
    cases hlast
    obtain ⟨status, reason, rfl⟩ := hrun n command e ho
    obtain ⟨p, hp, -, hcs⟩ := hu.plan
    have hcommands := (Rulebook.commandsFor_of_plan? (hfollows.plan?_of_planned hp)).trans hcs
    exact .inl (.command hcommands (h.outcome_of_underway hu) ho)
  | @blamed p f hp hg =>
    obtain ⟨os, hos, ha, hb⟩ := hg
    obtain ⟨before, d, cause, after, rfl, hbefore, rfl⟩ := blame_eq_error hb
    obtain ⟨r, hrule, rfl⟩ := Option.map_eq_some_iff.1 (hfollows.plan?_of_planned hp)
    refine .inr ⟨r, before.map (·.1), d, after.map (·.1), cause, rfl, hrule, by simpa [Plan.ofRule] using hos.symm,
      fun a hm => ?_, ?_⟩
    · -- what stands before it has succeeded, so it was not refused
      obtain ⟨⟨a, o⟩, hmem, rfl⟩ := List.mem_map.1 hm
      obtain rfl : o = none := hbefore (a, o) hmem
      obtain ⟨j, hrec | ⟨e, he, -⟩⟩ := ha _ (List.mem_append_left _ hmem)
      · exact (h.buildable_iff_of_settled hrec).1 rfl
      · cases he
    · obtain ⟨j, hrec | ⟨e, he, href⟩⟩ := ha _ (List.mem_append_right _ List.mem_cons_self)
      · exact ⟨(h.buildable_iff_of_settled hrec).not.1 (Option.some_ne_none _), .inl hrec⟩
      · cases he
        obtain ⟨chain, hchain, hcycle, -⟩ := h.of_refuse href
        exact ⟨fun hb => hb.not_transGen hcycle, .inr ⟨chain, hchain, hcycle⟩⟩

/-- The targets on the path of an error on record have errors on record themselves, with paths that are no
longer. -/
theorem path_on_record (hr : (m k).ledger.records.get? n = some (.settled (some (.error e)))) :
    ∀ a ∈ e.path, ∃ e', (m k).ledger.records.get? a.1 = some (.settled (some (.error e'))) ∧
      e'.path.length ≤ e.path.length := by
  induction e generalizing n with
  | dependencyFailed t d cause ih =>
    intro a ha
    rcases h.error_cases hrun hr with hcause | ⟨r, before, d', after, cause', heq, -, -, -, -, hd⟩
    · cases hcause
    cases heq
    rcases List.mem_cons.1 ha with rfl | ha
    · exact ⟨_, hr, Nat.le_refl _⟩
    rcases hd with hrec | ⟨chain, rfl, -⟩
    · obtain ⟨e', hrec', hlen⟩ := ih hrec a ha
      exact ⟨e', hrec', Nat.le_succ_of_le hlen⟩
    · cases ha
  | _ => nofun

/-- An error on record explains itself. -/
theorem explained (hr : (m k).ledger.records.get? n = some (.settled (some (.error e)))) :
    Explained b isFile outcome (m k).ledger n e := by
  induction e generalizing n with
  | dependencyFailed t d cause ih =>
    rcases h.error_cases hrun hr with hcause | ⟨r, before, d', after, cause', heq, hrule, hdeps, hbefore, hnot, hd⟩
    · exact hcause.explained
    have hfailed : (m k).ledger.status n = .failed := by rw [Ledger.status_of_settled hr, if_neg (Option.some_ne_none _)]
    cases heq
    rcases hd with hrec | ⟨chain, rfl, hcycle⟩
    · refine (ih hrec).pass_on hrule hdeps hbefore hnot hfailed fun hmem => ?_
      -- a name that came up again would have a shorter path on record than it has
      obtain ⟨a, ha, rfl⟩ := List.mem_map.1 hmem
      obtain ⟨e', hrec', hlen⟩ := h.path_on_record hrun hrec a ha
      rw [hr] at hrec'
      cases hrec'
      simp [BuildError.path] at hlen
    · exact (Explained.of_cycle hcycle).pass_on hrule hdeps hbefore hnot hfailed List.not_mem_nil
  | _ =>
    rcases h.error_cases hrun hr with hcause | ⟨r, before, d', after, cause', heq, -⟩
    · exact hcause.explained
    · cases heq

end Records

end Course

namespace Machine

variable {m : Machine σ} {i : CallId} {c : Call}

/-- Let the rules, the files and the outcomes of the commands stay the same, and let a command that fails
with an error name itself and its target. Then an error that a request from outside returns with explains
itself; and if it blames no dependency, it says what is wrong with the name that was requested. -/
theorem failure_explained (h : Reachable site ((Terms.fixing b isFile outcome).Hold site) jobs m)
    (hrun : ∀ n c e, outcome n c = some (.error e) →
      ∃ status reason, e = .commandFailed c.text (some n) status reason)
    (hc : m.calls[i]? = some c) (ha : c.ancestors = []) (ho : m.result? i = some (some (.error e))) :
    Explained b isFile outcome m.ledger c.name e ∧ (e.path = [] → Cause b isFile outcome c.name e) := by
  obtain ⟨ms, k, hms, rfl⟩ := h.exists_course
  obtain ⟨c', hc', hp⟩ := of_result? ho
  rw [hc, Option.some.injEq] at hc'
  subst hc'
  rcases (hms.attested k).phase_eq hc hp with hrec | ⟨e', -, href⟩
  · refine ⟨hms.explained hrun hrec, fun hnil => ?_⟩
    rcases hms.error_cases hrun hrec with hcause | ⟨r, before, d, after, cause, heq, -⟩
    · exact hcause
    · rw [heq] at hnil
      cases hnil
  · obtain ⟨chain, -, -, hne⟩ := hms.of_refuse href
    exact absurd ha (hne c hc)

/-- The last of three names in a row fails, and the first says so. -/
theorem failure_explained_stacked :
    let outcome : Name → Command → Outcome := fun n c =>
      if n = lit "c" then some (.error (.commandFailed c.text (some n) (some 1) none)) else none
    let e : BuildError := .dependencyFailed (lit "a") (lit "b") (.dependencyFailed (lit "b") (lit "c")
      (.commandFailed (lit "make c") (some (lit "c")) (some 1) none))
    ∃ m : Machine Unit, m.result? 0 = some (some (.error e)) ∧
      Explained .stacked (fun _ => false) outcome m.ledger (lit "a") e := by
  intro outcome e
  let terms : Terms := .fixing .stacked (fun _ => false) outcome
  let site : Site Unit := .fixed .stacked (fun _ => false) outcome
  let deeds : List (Deed Unit) := .start (lit "a") ::
    [0, 0, 0, 0, 1, 1, 1, 1, 2, 2, 2, 2, 2, 2, 2, 1, 1, 1, 0, 0, 0].map .step
  let m₀ : Machine Unit := { world := () }
  have hcourse : Course site (terms.Hold site) none (m₀.after site deeds) :=
    .of_deeds (w := ()) rfl deeds fun _ => ⟨⟨_, fun _ => rfl, fun _ => rfl⟩, fun _ _ => rfl⟩
  have hrun : ∀ n c e, outcome n c = some (.error e) →
      ∃ status reason, e = .commandFailed c.text (some n) status reason := by
    intro n c e he
    simp only [outcome] at he
    split at he <;> cases he
    exact ⟨_, _, rfl⟩
  have hcall : (m₀.after site deeds 22).calls[0]?.any (fun c => c.name = lit "a" ∧ c.ancestors = []) = true := by
    decide +kernel
  obtain ⟨c, hc, hroot⟩ := (Option.any_eq_true _ _).1 hcall
  obtain ⟨hn, ha⟩ := of_decide_eq_true hroot
  have ho : (m₀.after site deeds 22).result? 0 = some (some (.error e)) := by decide +kernel
  exact ⟨_, ho, hn ▸ (failure_explained (hcourse.reachable 22) hrun hc ha ho).1⟩

end Machine

end Build

end Buildfile
