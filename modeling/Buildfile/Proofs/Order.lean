import Buildfile.Proofs.Attested
import Buildfile.Proofs.Soundness
/-!
# Dependencies come first

While the rules stay as they are, a command of a name is started only after everything the name needs,
however far down, is done for good. So the commands of a dependency stand before those of what needs it
in the trace of any interleaving, and nothing is ever run for a name that leads to a cycle, to a name
that was not found, or to a command that has failed (`dependencies_first`).
-/

namespace Buildfile.Build

open Relation

variable {σ : Type} {site : Site σ} {ok : σ → Prop} {jobs : Option Int} {b : Rulebook} {i : CallId} {c : Call}
  {n d : Name} {o : Outcome} {f : Failure} {command : Command}

namespace Machine

variable {m m' : Machine σ}

/-! ## An end that is certain -/

/-- `n` has ended like this, and at most its owner has not said so yet. -/
def Ending (n : Name) (o : Outcome) (m : Machine σ) : Prop :=
  m.ledger.records.get? n = some (.settled o) ∨
    ∃ (i : CallId) (c : Call), m.calls[i]? = some c ∧ c.name = n ∧ (c.phase = .leaving o ∨ c.phase = .closing o)

theorem Ending.next (h : Ending n o m) (hco : Coherent m.ledger m.calls) (hn : m.Next site m') :
    Ending n o m' := by
  rcases h with h | ⟨i, c, hc, rfl, hp⟩
  · exact .inl (hn.settled hco h)
  rcases hn.call hc with hc' | hm
  · exact .inr ⟨i, c, hc', rfl, hp⟩
  rcases hp with hp | hp
  · cases hm with
    | @leave o' hp' =>
      rw [hp, Phase.leaving.injEq] at hp'
      subst hp'
      refine .inr ⟨i, { c with phase := .closing o }, ?_, rfl, .inr rfl⟩
      rw [enter_calls, giveSlot_calls, noteIf_calls]
      exact enterAt_self hc _
    | _ => simp_all
  · cases hm with
    | @publish o' hp' =>
      rw [hp, Phase.closing.injEq] at hp'
      subst hp'
      exact .inl ((Ledger.records_get?_settle _ _ _ _).trans (if_pos rfl))
    | _ => simp_all

/-- A name that is ending has no owner in any other phase. -/
theorem Ending.phase (h : Ending n o m) (hco : Coherent m.ledger m.calls) (hc : m.calls[i]? = some c)
    (hn : c.name = n) (ho : c.phase.owns = true) : c.phase = .leaving o ∨ c.phase = .closing o := by
  rcases h with h | ⟨j, c', hj, hn', hp⟩
  · rw [← hn, hco.owner_building hc ho] at h
    cases h
  · have ho' : c'.phase.owns = true := by rcases hp with hp | hp <;> rw [hp] <;> rfl
    obtain rfl := hco.owner_unique hc hj ho ho' (hn.trans hn'.symm)
    rw [hc, Option.some.injEq] at hj
    exact hj ▸ hp

/-- A name ends in one way. -/
theorem Ending.of_settled {o' : Outcome} (h : Ending n o m) (hco : Coherent m.ledger m.calls)
    (hs : m.ledger.records.get? n = some (.settled o')) : o = o' := by
  rcases h with h | ⟨i, c, hc, rfl, hp⟩
  · rw [hs] at h
    cases h
    rfl
  · rw [hco.owner_building hc (by rcases hp with hp | hp <;> rw [hp] <;> rfl)] at hs
    cases hs

/-- A command that fails ends its name. -/
theorem Does.ending_of_finish {started : List Command} (h : m.Does site (.finish n started (some f)) m') :
    Ending n (some f) m' := by
  obtain ⟨i, c, command, rest, hc, rfl, hp, -, hf, hm⟩ := h.of_finish
  cases hm with
  | @fail command' rest' f' w hp' hr =>
    obtain ⟨rfl, rfl⟩ : command = command' ∧ rest = rest' := by
      rw [hp] at hp'
      cases hp'
      exact ⟨rfl, rfl⟩
    rw [hr] at hf
    cases hf
    exact .inr ⟨i, _, enterAt_self hc _, rfl, .inl rfl⟩
  | _ => simp_all

/-- A name that is not found ends there. -/
theorem Does.ending_of_missing (h : m.Does site (.lookUp n .missing) m') :
    Ending n (some (.error (.unknownTarget n))) m' := by
  obtain ⟨i, c, hc, rfl, hp, hr, hm⟩ := h.of_lookUp
  cases hm with
  | miss => exact .inr ⟨i, _, enterAt_self hc _, rfl, .inr rfl⟩
  | _ => simp_all

/-! ## The trace of commands -/

/-- A command that is started is written down at the end of the trace. -/
theorem Does.ran_of_start (h : m.Does site (.start n command) m') : m'.ran = m.ran ++ [(n, command)] := by
  obtain ⟨i, c, rest, hc, rfl, hp, hm⟩ := h.of_start
  cases hm with
  | @launch command' rest' hp' =>
    rw [hp] at hp'
    cases hp'
    rfl
  | _ => simp_all

/-- What is new in the trace has just been started. -/
theorem Next.of_ran (hn : m.Next site m') : m'.ran = m.ran ∨
    ∃ n command, m.Does site (.start n command) m' ∧ m'.ran = m.ran ++ [(n, command)] := by
  cases hn with
  | @step i _ hs =>
    obtain ⟨c, hc, hm⟩ := step_iff.1 hs
    rcases ran_of_moves hm with h | ⟨command, rest, hp, h⟩
    · exact .inl h
    · exact .inr ⟨c.name, command, ⟨i, c, hc, by rw [event?, hp], hs⟩, h⟩
  | start | turn => exact .inl rfl

end Machine

namespace Course

open Machine

variable {m : Nat → Machine σ} {k l : Nat}

theorem ending (h : Course site ok jobs m) (hkl : k ≤ l) (he : Ending n o (m k)) : Ending n o (m l) :=
  h.lasting (fun j hn hj => hj.next (h.coherent j) hn) hkl he

/-- Every command in the trace was started when those before it were all that had been started. -/
theorem exists_start (h : Course site ok jobs m) {before later : List (Name × Command)}
    (hr : (m k).ran = before ++ (n, command) :: later) :
    ∃ j < k, (m j).Does site (.start n command) (m (j + 1)) ∧ (m j).ran = before := by
  induction k generalizing later with
  | zero =>
    obtain ⟨free, w, hm⟩ := h.zero_eq
    rw [hm] at hr
    simp at hr
  | succ k ih =>
    have hold : ∀ later, (m k).ran = before ++ (n, command) :: later →
        ∃ j < k + 1, (m j).Does site (.start n command) (m (j + 1)) ∧ (m j).ran = before := by
      intro later hr
      obtain ⟨j, hj, hd⟩ := ih hr
      exact ⟨j, Nat.lt_succ_of_lt hj, hd⟩
    rcases (h.next k).of_ran with heq | ⟨n', command', hd, heq⟩
    · exact hold later (heq.symm.trans hr)
    · rw [heq] at hr
      rcases List.eq_nil_or_concat later with rfl | ⟨later, last, rfl⟩
      · obtain ⟨hbefore, hlast⟩ := List.append_inj' hr rfl
        cases hlast
        exact ⟨k, Nat.lt_succ_self k, hd, hbefore⟩
      · rw [List.concat_eq_append, ← List.cons_append, ← List.append_assoc] at hr
        exact hold later (List.append_inj' hr rfl).1

/-- A name that commands were started for had a first of them started. -/
theorem exists_start_of_commandsOf (h : Course site ok jobs m) (hn : commandsOf (m k).ran n ≠ []) :
    ∃ j command, (m j).Does site (.start n command) (m (j + 1)) := by
  obtain ⟨command, hc⟩ := List.exists_mem_of_ne_nil _ hn
  obtain ⟨⟨n', command'⟩, hm, -⟩ := List.mem_map.1 hc
  obtain ⟨hran, hname⟩ := List.mem_filter.1 hm
  obtain ⟨before, later, hr⟩ := List.append_of_mem hran
  obtain rfl : n' = n := of_decide_eq_true hname
  obtain ⟨j, -, hd, -⟩ := h.exists_start hr
  exact ⟨j, command', hd⟩

/-! ## What is done -/

/-- What a name was looked up with is its plan in the rulebook. -/
theorem plan?_of_planned (h : Course site (site.Follows b) jobs m) {p : Plan}
    (hp : Planned (Happened site m k) n p) : b.plan? n = some p := by
  obtain ⟨pattern, j, -, hd⟩ := hp
  obtain ⟨-, -, -, -, -, hr, -⟩ := hd.of_lookUp
  obtain ⟨isFile, hres⟩ := h.within j
  exact Rulebook.plan?_of_resolve ((hres n).symm.trans hr)

/-- A name that is found as a file has no rule. -/
theorem plan?_of_present (h : Course site (site.Follows b) jobs m)
    (hp : Happened site m k (.lookUp n .present)) : b.plan? n = none := by
  obtain ⟨j, -, hd⟩ := hp
  obtain ⟨-, -, -, -, -, hr, -⟩ := hd.of_lookUp
  obtain ⟨isFile, hres⟩ := h.within j
  exact (Rulebook.of_resolve_present ((hres n).symm.trans hr)).1

end Course

/-- By moment `k` of a course `d` is done: all its commands were started, and one after the other they have
succeeded; without a rule, it was found as a file. -/
structure Complete (site : Site σ) (b : Rulebook) (m : Nat → Machine σ) (k : Nat) (d : Name) : Prop where
  done : (m k).ledger.status d = .done
  commands : commandsOf (m k).ran d = b.commandsFor d
  succeeded {started : List Command} : started ≠ [] → started <+: b.commandsFor d →
    Happened site m k (.finish d started none)
  found : b.rule? d = none → Happened site m k (.lookUp d .present)

namespace Course

open Machine

variable {m : Nat → Machine σ} {k l : Nat}

theorem done_cases (h : Course site (site.Follows b) jobs m)
    (hd : (m k).ledger.records.get? d = some (.settled none)) :
    (b.plan? d = none ∧ Happened site m k (.lookUp d .present) ∧ commandsOf (m k).ran d = []) ∨
    ∃ p, b.plan? d = some p ∧ (∀ e ∈ p.dependencies, (m k).ledger.records.get? e = some (.settled none)) ∧
      commandsOf (m k).ran d = p.commands ∧
      ∀ started, started ≠ [] → started <+: p.commands → Happened site m k (.finish d started none) := by
  have hend := (h.attested k).settled hd
  generalize commandsOf (m k).ran d = ran at hend ⊢
  cases hend with
  | present hp => exact .inl ⟨h.plan?_of_present hp, hp, rfl⟩
  | done hu =>
    obtain ⟨p, hp, hdeps, hcs⟩ := hu.plan
    rw [List.append_nil] at hcs
    exact .inr ⟨p, h.plan?_of_planned hp, hdeps, hcs.symm, fun started hne hpre => hu.passed hne (hcs ▸ hpre)⟩

theorem complete (h : Course site (site.Follows b) jobs m)
    (hd : (m k).ledger.records.get? d = some (.settled none)) : Complete site b m k d := by
  have hstatus : (m k).ledger.status d = .done := by rw [Ledger.status_of_settled hd, if_pos rfl]
  rcases h.done_cases hd with ⟨hp, hfound, hran⟩ | ⟨p, hp, -, hran, hpassed⟩
  · have hcs := Rulebook.commandsFor_of_plan?_eq_none hp
    refine ⟨hstatus, hran.trans hcs.symm, fun hne hpre => ?_, fun _ => hfound⟩
    rw [hcs, List.prefix_nil] at hpre
    exact absurd hpre hne
  · have hcs := Rulebook.commandsFor_of_plan? hp
    refine ⟨hstatus, hran.trans hcs.symm, fun {started} hne hpre => hpassed started hne (hcs ▸ hpre), fun hr => ?_⟩
    rw [Rulebook.plan?, hr] at hp
    cases hp

/-- What a done name needs is done, and so is what that needs. -/
theorem done_of_reflTransGen (h : Course site (site.Follows b) jobs m) {e : Name}
    (hd : (m k).ledger.records.get? d = some (.settled none)) (hde : ReflTransGen b.Needs d e) :
    (m k).ledger.records.get? e = some (.settled none) := by
  induction hde with
  | refl => exact hd
  | @tail a e _ hae ih =>
    rcases h.done_cases ih with ⟨hp, -, -⟩ | ⟨p, hp, hdeps, -, -⟩
    · exact absurd hae (Rulebook.not_needs_of_plan?_eq_none hp e)
    · exact hdeps e ((Rulebook.needs_iff_of_plan? hp).1 hae)

/-- A done name is on no cycle. -/
theorem not_transGen_of_done (h : Course site (site.Follows b) jobs m)
    (hd : (m k).ledger.records.get? d = some (.settled none)) : ¬ TransGen b.Needs d d :=
  ((sound_of_follows (fun _ _ _ => True) (h.reachable k) fun _ _ _ _ => trivial).settled hd).1.buildable.not_transGen

/-- A done name never ends in a failure. -/
theorem not_ending_of_done (h : Course site ok jobs m)
    (hd : (m k).ledger.records.get? d = some (.settled none)) : ¬ Ending d (some f) (m l) := by
  intro he
  rcases Nat.le_total k l with hkl | hlk
  · cases he.of_settled (h.coherent l) (h.settled hkl hd).1
  · cases (h.ending hlk he).of_settled (h.coherent k) hd

/-! ## What a start says -/

/-- The owner of a name that starts a command is not ending. -/
theorem not_ending_of_start (h : Course site ok jobs m) (hs : (m k).Does site (.start n command) (m (k + 1)))
    (hlk : l ≤ k) : ¬ Ending n o (m l) := by
  intro he
  obtain ⟨i, c, rest, hc, hn, hp, -⟩ := hs.of_start
  have hend := (h.ending hlk he).phase (h.coherent k) hc hn (by rw [hp]; rfl)
  simp [hp] at hend

/-- A command is started when all commands before it have succeeded and all that its name needs is done. -/
theorem underway_of_start (h : Course site ok jobs m) (hs : (m k).Does site (.start n command) (m (k + 1))) :
    ∃ rest, Underway (Happened site m k) (m k).ledger.records n (commandsOf (m k).ran n) (command :: rest) := by
  obtain ⟨i, c, rest, hc, rfl, hp, -⟩ := hs.of_start
  exact ⟨rest, (h.attested k).phase_eq hc hp⟩

theorem done_of_start (h : Course site (site.Follows b) jobs m)
    (hs : (m k).Does site (.start n command) (m (k + 1))) (hnd : TransGen b.Needs n d) :
    (m k).ledger.records.get? d = some (.settled none) := by
  obtain ⟨rest, hu⟩ := h.underway_of_start hs
  obtain ⟨p, hp, hdeps, -⟩ := hu.plan
  obtain ⟨e, hne, hed⟩ := TransGen.head'_iff.1 hnd
  exact h.done_of_reflTransGen (hdeps e ((Rulebook.needs_iff_of_plan? (h.plan?_of_planned hp)).1 hne)) hed

/-- A name that a command is started for was found. -/
theorem not_missing_of_start (h : Course site ok jobs m) (hs : (m k).Does site (.start n command) (m (k + 1))) :
    ¬ Happened site m l (.lookUp n .missing) := by
  rintro ⟨j, -, hj⟩
  obtain ⟨rest, hu⟩ := h.underway_of_start hs
  obtain ⟨p, ⟨pattern, j', -, hj'⟩, -, -⟩ := hu.plan
  cases (h.lookUp_unique hj hj').2

/-- While the rules stay as they are:

* when a command of `n` is started, everything that `n` needs, in one step or more, is done, and nothing is
  started for it any more; the command is the next of those of `n`, and all before it have succeeded;
* in the trace, all commands of what a name needs stand before any command of the name, and none after it;
* no command is started for a name that leads to a cycle or to a name that is not found, nor for one that
  needs a name of which a command fails, and none for a name after a command of it has failed. -/
theorem dependencies_first (h : Course site (site.Follows b) jobs m) :
    (∀ k n command, (m k).Does site (.start n command) (m (k + 1)) →
      (m (k + 1)).ran = (m k).ran ++ [(n, command)] ∧
      (∀ d, TransGen b.Needs n d → Complete site b m k d ∧
        ∀ l, k ≤ l → commandsOf (m l).ran d = b.commandsFor d) ∧
      (∃ rest, b.commandsFor n = commandsOf (m k).ran n ++ command :: rest) ∧
      ∀ started, started ≠ [] → started <+: commandsOf (m k).ran n → Happened site m k (.finish n started none)) ∧
    (∀ k before later n command, (m k).ran = before ++ (n, command) :: later → ∀ d, TransGen b.Needs n d →
      commandsOf before d = b.commandsFor d ∧ commandsOf later d = []) ∧
    (∀ k n d, ReflTransGen b.Needs n d →
      (TransGen b.Needs d d ∨ ∃ l, Happened site m l (.lookUp d .missing)) → commandsOf (m k).ran n = []) ∧
    (∀ k n d, TransGen b.Needs n d → (∃ l started f, Happened site m l (.finish d started (some f))) →
      commandsOf (m k).ran n = []) ∧
    ∀ k l n started f command, k ≤ l → (m k).Does site (.finish n started (some f)) (m (k + 1)) →
      ¬ (m l).Does site (.start n command) (m (l + 1)) := by
  have hsettled : ∀ {k n command}, (m k).Does site (.start n command) (m (k + 1)) → ∀ {d},
      TransGen b.Needs n d → ∀ l, k ≤ l → commandsOf (m l).ran d = b.commandsFor d := by
    intro k n command hs d hnd l hkl
    have hd := h.done_of_start hs hnd
    exact (h.settled hkl hd).2.trans (h.complete hd).commands
  refine ⟨fun k n command hs => ⟨hs.ran_of_start, fun d hnd => ?_, ?_, ?_⟩, fun k before later n command hr d hnd => ?_,
    fun k n d hnd hbad => ?_, fun k n d hnd hfail => ?_, fun k l n started f command hkl hf hs => ?_⟩
  · exact ⟨h.complete (h.done_of_start hs hnd), hsettled hs hnd⟩
  · obtain ⟨rest, hu⟩ := h.underway_of_start hs
    obtain ⟨p, hp, -, hcs⟩ := hu.plan
    exact ⟨rest, (Rulebook.commandsFor_of_plan? (h.plan?_of_planned hp)).trans hcs⟩
  · obtain ⟨rest, hu⟩ := h.underway_of_start hs
    exact fun started hne hpre => hu.passed hne hpre
  · -- all commands of `d` are in `before` already, so none is left to follow
    obtain ⟨j, hj, hs, rfl⟩ := h.exists_start hr
    have hbefore := hsettled hs hnd j (Nat.le_refl j)
    refine ⟨hbefore, ?_⟩
    have hall := hsettled hs hnd k (Nat.le_of_lt hj)
    rw [hr, commandsOf_append, hbefore, List.append_right_eq_self, ← List.singleton_append, commandsOf_append] at hall
    exact (List.append_eq_nil_iff.1 hall).2
  · by_contra hne
    obtain ⟨j, command, hs⟩ := h.exists_start_of_commandsOf hne
    rcases hbad with hcycle | ⟨l, hmiss⟩
    · exact h.not_transGen_of_done (h.done_of_start hs (TransGen.trans_right hnd hcycle)) hcycle
    · rcases reflTransGen_iff_eq_or_transGen.1 hnd with rfl | hnd
      · exact h.not_missing_of_start hs hmiss
      · obtain ⟨j', -, hd⟩ := hmiss
        exact h.not_ending_of_done (h.done_of_start hs hnd) hd.ending_of_missing
  · by_contra hne
    obtain ⟨j, command, hs⟩ := h.exists_start_of_commandsOf hne
    obtain ⟨l, started, f, j', -, hd⟩ := hfail
    exact h.not_ending_of_done (h.done_of_start hs hnd) hd.ending_of_finish
  · rcases Nat.eq_or_lt_of_le hkl with rfl | hkl
    · -- the owner is running a command, and cannot be starting one
      obtain ⟨i, c, command', rest, hc, hn, hp, -⟩ := hf.of_finish
      obtain ⟨j, c', rest', hc', hn', hp', -⟩ := hs.of_start
      obtain rfl := h.owner_unique hc hc' (by rw [hp]; rfl) (by rw [hp']; rfl) (hn.trans hn'.symm)
      rw [hc, Option.some.injEq] at hc'
      rw [hc', hp'] at hp
      cases hp
    · exact h.not_ending_of_start hs hkl hf.ending_of_finish

/-- Three names in a row are built from the last one on. -/
theorem dependencies_first_stacked :
    let site : Site Unit := Site.fixed .stacked (fun _ => false) fun _ _ => none
    ∃ m : Nat → Machine Unit, Course site (site.Follows .stacked) (some 1) m ∧
      (m 32).ran = [(lit "c", { text := lit "make c" }), (lit "b", { text := lit "make b" }),
        (lit "a", { text := lit "make a" })] ∧
      ∀ k before later command, (m k).ran = before ++ (lit "a", command) :: later →
        commandsOf before (lit "c") = [{ text := lit "make c" }] ∧ commandsOf later (lit "c") = [] := by
  intro site
  let deeds : List (Deed Unit) := .start (lit "a") ::
    [0, 0, 0, 0, 1, 1, 1, 1, 2, 2, 2, 2, 2, 2, 2, 2, 1, 1, 1, 1, 1, 1, 1, 1, 0, 0, 0, 0, 0, 0, 0].map .step
  let m₀ : Machine Unit := { slots := some 1, world := () }
  have hcourse : Course site (site.Follows .stacked) (some 1) (m₀.after site deeds) :=
    .of_deeds (w := ()) rfl deeds fun _ => Site.follows_fixed _ _ _ _
  have hab : Rulebook.stacked.Needs (lit "a") (lit "b") :=
    Rulebook.needs_iff.2 ⟨⟨[lit "b"], [{ text := lit "make a" }]⟩, by decide +kernel, List.mem_singleton_self _⟩
  have hbc : Rulebook.stacked.Needs (lit "b") (lit "c") :=
    Rulebook.needs_iff.2 ⟨⟨[lit "c"], [{ text := lit "make b" }]⟩, by decide +kernel, List.mem_singleton_self _⟩
  have hc : Rulebook.stacked.commandsFor (lit "c") = [{ text := lit "make c" }] := by decide +kernel
  refine ⟨_, hcourse, by decide +kernel, fun k before later command hr => ?_⟩
  exact hc ▸ (dependencies_first hcourse).2.1 k before later (lit "a") command hr (lit "c") (.head hab (.single hbc))

end Course

end Buildfile.Build
