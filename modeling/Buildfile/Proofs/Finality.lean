import Buildfile.Proofs.Attested
import Buildfile.Build.Dependency
import Buildfile.Build.Rehearsal
/-!
# What has become of a name is final

`outcome_final` follows a name through any course of events, in which calls take their steps in any
order, names are requested from outside, rules are added and files come and go. One call at most ever
owns the name, and it looks the name up once; the status of the name only moves on; the commands that
are started for it are the first of the plan that it was looked up with; and every call for it that
is not refused passes on what its owner has published. A request that comes after that does nothing
but pass it on, and what the rules and files say of a name makes no difference once it was looked up.
-/

namespace Buildfile.Build

variable {σ : Type} {site site' : Site σ} {ok : σ → Prop} {jobs : Option Int} {i : CallId} {c : Call}
  {n : Name} {o : Outcome}

/-- A status turns into the next. -/
inductive Status.Turns : Status → Status → Prop
  | begin : Turns .unstarted .inProgress
  | succeed : Turns .inProgress .done
  | fail : Turns .inProgress .failed

/-- The sites perform commands and take notes alike, and resolve names alike except those in `s`. -/
structure Site.AgreeExcept (s : Name → Prop) (site site' : Site σ) : Prop where
  perform : site'.perform = site.perform
  note : site'.note = site.note
  resolve (w : σ) {n : Name} : ¬ s n → site'.resolve w n = site.resolve w n

theorem Site.AgreeExcept.mono {s s' : Name → Prop} (h : site.AgreeExcept s site') (hs : ∀ n, s n → s' n) :
    site.AgreeExcept s' site' :=
  ⟨h.perform, h.note, fun w {n} hn => h.resolve w fun hsn => hn (hs n hsn)⟩

namespace Machine

variable {m m' : Machine σ}

/-- `n` was requested, and its owner is past looking it up. -/
structure Resolved (m : Machine σ) (n : Name) : Prop where
  requested : m.ledger.status n ≠ .unstarted
  past {i : CallId} {c : Call} : m.calls[i]? = some c → c.phase = .resolving → c.name ≠ n

theorem status_next (hco : Coherent m.ledger m.calls) (hn : m.Next site m') (n : Name) :
    m'.ledger.status n = m.ledger.status n ∨ (m.ledger.status n).Turns (m'.ledger.status n) := by
  cases hn with
  | step hs =>
    obtain ⟨c, hc, hm⟩ := step_iff.1 hs
    rcases records_of_moves hco hc hm with hr | ⟨hr, hr'⟩ | ⟨o, hr, -, hr'⟩
    · exact .inl (by rw [Ledger.status, hr, Ledger.status])
    · by_cases hnc : n = c.name
      · subst hnc
        refine .inr ?_
        rw [Ledger.status, Ledger.status, hr, hr', Ledger.records_get?_enroll, if_pos rfl]
        exact .begin
      · exact .inl (by rw [Ledger.status, hr', Ledger.records_get?_enroll, if_neg hnc, Ledger.status])
    · by_cases hnc : n = c.name
      · subst hnc
        refine .inr ?_
        rw [Ledger.status, Ledger.status, hr, hr', Ledger.records_get?_settle, if_pos rfl]
        cases o with
        | none => exact .succeed
        | some f => exact .fail
      · exact .inl (by rw [Ledger.status, hr', Ledger.records_get?_settle, if_neg hnc, Ledger.status])
  | start | turn => exact .inl rfl

/-! ## Requests for a settled name -/

/-- Call `i` asks for `n`, which is settled, and passes its outcome on if it has returned. -/
structure Late (i : CallId) (n : Name) (o : Outcome) (m : Machine σ) : Prop where
  settled : m.ledger.records.get? n = some (.settled o)
  call : ∃ c, m.calls[i]? = some c ∧ c.name = n ∧
    (c.phase = .requested ∨ c.phase = .joined ∨ c.phase = .returned o)

/-- A request for a settled name is not refused, whatever its ancestors. -/
theorem admission_of_settled (hco : Coherent m.ledger m.calls) (hc : m.calls[i]? = some c)
    (hp : c.phase = .requested) (hs : m.ledger.records.get? c.name = some (.settled o)) :
    m.ledger.admission c.name c.ancestors = .join := by
  cases ha : m.ledger.admission c.name c.ancestors with
  | own =>
    rw [(Ledger.get?_of_own ha).2] at hs
    cases hs
  | join => rfl
  | refuse e =>
    -- the ancestors of a call are being built, and so is a name that waits
    have hb : m.ledger.records.get? c.name = some .building := by
      rcases (Ledger.eq_of_refuse ha).2 with hmem | ⟨hb, -⟩
      · exact hco.ancestor_building hc (by rw [hp]; rfl) hmem
      · exact hb
    rw [hb] at hs
    cases hs

theorem Late.next (h : Late i n o m) (hco : Coherent m.ledger m.calls) (hn : m.Next site m') : Late i n o m' := by
  obtain ⟨hs, c, hc, rfl, hp⟩ := h
  refine ⟨hn.settled hco hs, ?_⟩
  rcases hn.call hc with hc' | hm
  · exact ⟨c, hc', rfl, hp⟩
  rcases hp with hp | hp | hp
  · have ha := admission_of_settled hco hc hp hs
    cases hm with
    | join => exact ⟨_, enterAt_self hc _, rfl, .inr (.inl rfl)⟩
    | _ => simp_all
  · cases hm with
    | @inherit o' _ ho =>
      obtain rfl : o' = o := by
        rw [Ledger.outcome?_eq_some_iff, hs] at ho
        cases ho
        rfl
      exact ⟨_, enterAt_self hc _, rfl, .inr (.inr rfl)⟩
    | _ => simp_all
  · cases hm <;> simp_all

/-- A request for a settled name returns after two steps of its own, and nothing else comes of it. -/
theorem exists_steps_of_settled (hco : Coherent m.ledger m.calls) (hc : m.calls[i]? = some c)
    (hp : c.phase = .requested) (hs : m.ledger.outcome? c.name = some o) :
    ∃ m₁ m₂, m.step site i = some m₁ ∧ m₁.step site i = some m₂ ∧ m₂.result? i = some o ∧
      m₂.ledger = m.ledger ∧ m₂.ran = m.ran := by
  have ha := admission_of_settled hco hc hp (Ledger.outcome?_eq_some_iff.1 hs)
  have hjoined := enterAt_self hc .joined
  have hreturned := enterAt_self hjoined (.returned o)
  refine ⟨_, _, step_iff.2 ⟨c, hc, .join hp ha⟩, step_iff.2 ⟨_, hjoined, .inherit rfl hs⟩, ?_, rfl, rfl⟩
  exact Option.bind_eq_some_iff.2 ⟨_, hreturned, rfl⟩

/-! ## What a step depends on -/

/-- Only a look-up depends on how names are resolved. -/
theorem Moves.of_site (hm : Moves site m i c m') (hperf : site'.perform = site.perform)
    (hnote : site'.note = site.note)
    (hres : c.phase = .resolving → site'.resolve m.world c.name = site.resolve m.world c.name) :
    Moves site' m i c m' := by
  have hn : ∀ k, m.note site k = m.note site' k := fun k => by rw [Machine.note, Machine.note, hnote]
  have hni : ∀ k, m.noteIf site k = m.noteIf site' k := fun k => by
    cases k with
    | none => rfl
    | some k => exact hn k
  cases hm with
  | own hp ha => exact .own hp ha
  | join hp ha => exact hn _ ▸ .join hp ha
  | refuse hp ha => exact .refuse hp ha
  | inherit hp ho => exact .inherit hp ho
  | plan hp hr hd => exact hni _ ▸ .plan hp ((hres hp).trans hr) hd
  | queue hp hr hd => exact hni _ ▸ .queue hp ((hres hp).trans hr) hd
  | find hp hr => exact hn _ ▸ .find hp ((hres hp).trans hr)
  | miss hp hr => exact .miss hp ((hres hp).trans hr)
  | record hp => exact .record hp
  | spawn hp => exact .spawn hp
  | gather hp hos => exact .gather hp hos
  | proceed hp => exact .proceed hp
  | abandon hp => exact .abandon hp
  | skip hp => exact hn _ ▸ .skip hp
  | acquire hp hs => exact .acquire hp hs
  | exhaust hp => exact .exhaust hp
  | launch hp => exact .launch hp
  | pass hp hr => exact .pass hp (by rw [hperf, hr])
  | fail hp hr => exact .fail hp (by rw [hperf, hr])
  | leave hp => exact hni _ ▸ .leave hp
  | publish hp => exact .publish hp

end Machine

namespace Course

open Machine

variable {m : Nat → Machine σ} {k l : Nat}

/-- The rest of a course does not depend on how the names are resolved that were looked up before. -/
theorem next_of_agree (h : Course site ok jobs m)
    (ha : site.AgreeExcept (fun n => ∃ r, Happened site m k (.lookUp n r)) site') (hkl : k ≤ l) :
    (m l).Next site' (m (l + 1)) := by
  have hn := h.next l
  generalize hm' : m (l + 1) = m' at hn ⊢
  cases hn with
  | @step i _ hs =>
    obtain ⟨c, hc, hm⟩ := step_iff.1 hs
    refine .step (step_iff.2 ⟨c, hc, hm.of_site ha.perform ha.note fun hp => ha.resolve _ ?_⟩)
    -- what is looked up now was not looked up before
    rintro ⟨r, j, hj, hr⟩
    have hnow : (m l).Does site (.lookUp c.name (site.resolve (m l).world c.name)) (m (l + 1)) :=
      ⟨i, c, hc, by rw [event?, hp], hm' ▸ hs⟩
    exact h.not_lookUp (Nat.lt_of_lt_of_le hj hkl) hr hnow
  | start n => exact .start n
  | turn w => exact .turn w

/-- A call that has returned was refused for a cycle, or its outcome is that of its name. -/
theorem answered (h : Course site ok jobs m) (hc : (m k).calls[i]? = some c) (ho : (m k).result? i = some o) :
    (m k).ledger.outcome? c.name = some o ∨ ∃ chain, o = some (.error (.circular c.name chain)) ∧
      Happened site m k (.refuse i c.name (.circular c.name chain)) := by
  obtain ⟨c', hc', hp⟩ := of_result? ho
  rw [hc, Option.some.injEq] at hc'
  subst hc'
  rcases (h.attested k).phase_eq hc hp with hrec | ⟨e, rfl, j, hj, he⟩
  · exact .inl (Ledger.outcome?_eq_some_iff.2 hrec)
  · obtain ⟨c₀, -, hn, -, ha, -⟩ := he.of_refuse
    obtain ⟨rfl, -⟩ := Ledger.eq_of_refuse ha
    rw [hn] at he ⊢
    exact .inr ⟨_, rfl, j, hj, he⟩

/-- A request for a settled name owns nothing and passes the outcome on. -/
theorem late (h : Course site ok jobs m) (hkl : k ≤ l) (hc : (m k).calls[i]? = some c)
    (hp : c.phase = .requested) (hs : (m k).ledger.outcome? c.name = some o) {c' : Call}
    (hc' : (m l).calls[i]? = some c') : c'.phase.owns = false ∧ ∀ o', c'.phase.result? = some o' → o' = o := by
  have hlate : Late i c.name o (m k) := ⟨Ledger.outcome?_eq_some_iff.1 hs, c, hc, rfl, .inl hp⟩
  obtain ⟨-, c₀, hc₀, -, hp₀⟩ := h.lasting (fun j hn hj => hj.next (h.coherent j) hn) hkl hlate
  rw [hc', Option.some.injEq] at hc₀
  subst hc₀
  rcases hp₀ with hp | hp | hp <;> simp [hp, Phase.owns, Phase.result?, eq_comm]

/-- Whatever happens, and in whatever order:

* one call at most ever owns a name, and the name is looked up once;
* the status of a name turns from unstarted to in progress to done or failed; its outcome is what its
  owner has published, and after that it stays the same and no command is started for the name;
* the commands that were started for a name are the first of those of the plan that it was looked up
  with;
* a call that has returned was refused itself, or it passes on the outcome of its name;
* a request for a name that is settled never owns the name, and can only return its outcome; two steps of
  its own are enough for it to do so, and they start no command and leave the records as they are;
* from any moment on, all goes on in the same way if the rules and files are changed for names that were
  requested and looked up before. -/
theorem outcome_final (h : Course site ok jobs m) :
    (∀ k l (i j : CallId) (c c' : Call), (m k).calls[i]? = some c → (m l).calls[j]? = some c' → c.phase.owns = true →
      c'.phase.owns = true → c.name = c'.name → i = j) ∧
    (∀ k l n r r', (m k).Does site (.lookUp n r) (m (k + 1)) → (m l).Does site (.lookUp n r') (m (l + 1)) →
      k = l ∧ r = r') ∧
    (∀ k n, (m (k + 1)).ledger.status n = (m k).ledger.status n ∨
      ((m k).ledger.status n).Turns ((m (k + 1)).ledger.status n)) ∧
    (∀ k n o, (m k).ledger.outcome? n = some o ↔ Happened site m k (.publish n o)) ∧
    (∀ k l n o, k ≤ l → (m k).ledger.outcome? n = some o →
      (m l).ledger.outcome? n = some o ∧ commandsOf (m l).ran n = commandsOf (m k).ran n) ∧
    (∀ k l, k ≤ l → (m k).ran <+: (m l).ran) ∧
    (∀ k n, commandsOf (m k).ran n = [] ∨ ∃ p pattern, Happened site m k (.lookUp n (.planned p pattern)) ∧
      commandsOf (m k).ran n <+: p.commands) ∧
    (∀ k (i : CallId) (c : Call) o, (m k).calls[i]? = some c → (m k).result? i = some o →
      (m k).ledger.outcome? c.name = some o ∨ ∃ chain, o = some (.error (.circular c.name chain)) ∧
        Happened site m k (.refuse i c.name (.circular c.name chain))) ∧
    (∀ k l (i : CallId) (c c' : Call) o, k ≤ l → (m k).calls[i]? = some c → c.phase = .requested →
      (m k).ledger.outcome? c.name = some o → (m l).calls[i]? = some c' →
      c'.phase.owns = false ∧ ∀ o', c'.phase.result? = some o' → o' = o) ∧
    (∀ k (i : CallId) (c : Call) o, (m k).calls[i]? = some c → c.phase = .requested →
      (m k).ledger.outcome? c.name = some o → ∃ m₁ m₂, (m k).step site i = some m₁ ∧ m₁.step site i = some m₂ ∧
        m₂.result? i = some o ∧ m₂.ledger = (m k).ledger ∧ m₂.ran = (m k).ran) ∧
    ∀ k site', site.AgreeExcept (m k).Resolved site' → ∀ l, k ≤ l → (m l).Next site' (m (l + 1)) := by
  refine ⟨fun k l i j c c' hi hj ho ho' hn => h.owner_unique hi hj ho ho' hn,
    fun k l n r r' hk hl => h.lookUp_unique hk hl, fun k n => status_next (h.coherent k) (h.next k) n,
    fun k n o => ?_, fun k l n o hkl hs => ?_, fun k l hkl => h.ran hkl, fun k n => ?_,
    fun k i c o hc ho => h.answered hc ho, fun k l i c c' o hkl hc hp hs hc' => h.late hkl hc hp hs hc',
    fun k i c o hc hp hs => exists_steps_of_settled (h.coherent k) hc hp hs,
    fun k site' ha l hkl => h.next_of_agree (ha.mono fun n hn => ?_) hkl⟩
  · rw [Ledger.outcome?_eq_some_iff]
    exact h.settled_iff
  · rw [Ledger.outcome?_eq_some_iff] at hs ⊢
    exact h.settled hkl hs
  · rcases (h.attested k).prefix_plan (h.coherent k) n with hnil | ⟨p, ⟨pattern, hp⟩, hpre⟩
    · exact .inl hnil
    · exact .inr ⟨p, pattern, hp, hpre⟩
  · exact (h.attested k).exists_lookUp (h.coherent k) (Ledger.status_eq_unstarted_iff.not.1 hn.requested)
      fun _ _ hc hp => hn.past hc hp

/-- A name was built, and is given other commands: nothing is run for it any more. -/
theorem outcome_final_redefined : ∃ m : Nat → Machine Stage, Course (Stage.site {}) (fun _ => True) none m ∧
    (m 13).world.rulebook.commandsFor (lit "a") = [{ text := lit "make a anew" }] ∧
    (m 13).result? 1 = some none ∧
    ∀ l, 13 ≤ l → commandsOf (m l).ran (lit "a") = [{ text := lit "make a" }] := by
  let rulebook (text : Text) : Rulebook := { rules := [{ name := lit "a", commands := [{ text }] }] }
  let m₀ : Machine Stage := { world := { rulebook := rulebook (lit "make a") } }
  let deeds : List (Deed Stage) := .start (lit "a") :: List.replicate 8 (.step 0) ++
    [.turn { rulebook := rulebook (lit "make a anew") }, .start (lit "a"), .step 1, .step 1]
  have hcourse : Course (Stage.site {}) (fun _ => True) none (m₀.after (Stage.site {}) deeds) :=
    .of_deeds (w := m₀.world) rfl deeds fun _ => trivial
  obtain ⟨-, -, -, -, hlast, -⟩ := outcome_final hcourse
  have hran : commandsOf (m₀.after (Stage.site {}) deeds 13).ran (lit "a") = [{ text := lit "make a" }] := by
    decide +kernel
  have hdone : (m₀.after (Stage.site {}) deeds 13).ledger.outcome? (lit "a") = some none := by decide +kernel
  exact ⟨_, hcourse, by decide +kernel, by decide +kernel, fun l hl => (hlast 13 l _ _ hl hdone).2.trans hran⟩

/-- Whatever rules and files the world is given now, and whatever is done then, the same comes of `n`. -/
def Indifferent (site : Site σ) (m : Machine σ) (n : Name) : Prop :=
  ∀ (w w' : σ) (deeds : List (Deed σ)) (k : Nat),
    (m.after site (.turn w :: deeds) k).ledger.outcome? n = (m.after site (.turn w' :: deeds) k).ledger.outcome? n ∧
    commandsOf (m.after site (.turn w :: deeds) k).ran n = commandsOf (m.after site (.turn w' :: deeds) k).ran n

/-- To be requested is not enough to be out of reach of what comes later. A name whose dependency has not been looked up
is done or fails by a file that comes for the dependency; and a name that has not been looked up itself is built by the
rule that it is given now. -/
theorem requested_not_indifferent :
    (¬ ∀ (m : Machine Stage) n, Reachable (Stage.site {}) (fun _ => True) none m → m.ledger.status n ≠ .unstarted →
      Indifferent (Stage.site {}) m n) ∧
    ∃ (m : Machine Stage) (w : Stage) (deeds : List (Deed Stage)), Reachable (Stage.site {}) (fun _ => True) none m ∧
      m.ledger.status (lit "a") = .inProgress ∧ (∀ n, n ≠ lit "a" → w.rulebook.rule? n = m.world.rulebook.rule? n) ∧
      commandsOf (m.after (Stage.site {}) (.turn m.world :: deeds) 8).ran (lit "a") = [{ text := lit "make a" }] ∧
      commandsOf (m.after (Stage.site {}) (.turn w :: deeds) 8).ran (lit "a") = [{ text := lit "make a anew" }] := by
  have hreachable : ∀ (w : Stage) (deeds : List (Deed Stage)) k,
      Reachable (Stage.site {}) (fun _ => True) none (Machine.after (Stage.site {}) { world := w } deeds k) :=
    fun w deeds k => (Course.of_deeds (w := w) rfl deeds fun _ => trivial).reachable k
  constructor
  · intro h
    let w : Stage := { rulebook := { rules := [{ name := lit "all", dependencies := [lit "data"] }] } }
    let deeds : List (Deed Stage) := .start (lit "all") :: List.replicate 4 (.step 0)
    let m : Machine Stage := Machine.after (Stage.site {}) { world := w } deeds 5
    let rest : List (Deed Stage) := List.replicate 3 (.step 1) ++ List.replicate 8 (.step 0)
    have hrequested : m.ledger.status (lit "all") ≠ .unstarted := by decide +kernel
    obtain ⟨hsame, -⟩ := h m (lit "all") (hreachable w deeds 5) hrequested w (w.touch (lit "data")) rest 12
    have hwithout : (m.after (Stage.site {}) (.turn w :: rest) 12).ledger.outcome? (lit "all") =
        some (some (.error (.dependencyFailed (lit "all") (lit "data") (.unknownTarget (lit "data"))))) := by
      decide +kernel
    have hwith : (m.after (Stage.site {}) (.turn (w.touch (lit "data")) :: rest) 12).ledger.outcome? (lit "all") =
        some none := by
      decide +kernel
    rw [hwithout, hwith] at hsame
    cases hsame
  · let w (text : Text) : Stage := { rulebook := { rules := [{ name := lit "a", commands := [{ text }] }] } }
    let deeds : List (Deed Stage) := [.start (lit "a"), .step 0]
    let rest : List (Deed Stage) := List.replicate 7 (.step 0)
    refine ⟨Machine.after (Stage.site {}) { world := w (lit "make a") } deeds 2, w (lit "make a anew"), rest,
      hreachable _ deeds 2, by decide +kernel, fun n hn => ?_, by decide +kernel, by decide +kernel⟩
    have hnone : ∀ text, (w text).rulebook.rule? n = none := by
      intro text
      simp [w, Rulebook.rule?, Rulebook.get?, Rulebook.match?, Rulebook.patterns, hn.symm]
    exact (hnone _).trans (hnone _).symm

end Course

end Buildfile.Build
