import Buildfile.Proofs.Coherence
import Buildfile.Build.Course
/-!
# From one machine to the next

What a machine keeps when something happens to it: a call stays where it is unless it is the one that
moves (`Next.call`), a settled name keeps its outcome and starts no further command, and no second
call ever owns a name. `Lookup` follows one owner from its look-up on, so a name is looked up once.
-/

namespace Buildfile.Build

variable {σ : Type} {site : Site σ} {ok : σ → Prop} {jobs : Option Int} {m m' : Machine σ} {i j : CallId}
  {c : Call} {n : Name} {o : Outcome}

namespace Machine

/-! ## One step -/

/-- A step leaves the records alone, or it makes or settles the record of its call's name. -/
theorem records_of_moves (hco : Coherent m.ledger m.calls) (hc : m.calls[i]? = some c)
    (hm : Moves site m i c m') :
    m'.ledger.records = m.ledger.records ∨
    (m.ledger.records.get? c.name = none ∧ m'.ledger.records = (m.ledger.enroll c.name).records) ∨
    ∃ o, m.ledger.records.get? c.name = some .building ∧ c.phase = .closing o ∧
      m'.ledger.records = (m.ledger.settle c.name o).records := by
  cases hm with
  | own _ ha => exact .inr (.inl ⟨(Ledger.get?_of_own ha).2, rfl⟩)
  | publish hp => exact .inr (.inr ⟨_, hco.owner_building hc (by rw [hp]; rfl), hp, rfl⟩)
  | acquire _ hs =>
    obtain ⟨free, rfl, -⟩ := eq_of_takeSlot hs
    exact .inl rfl
  | plan | queue | leave => exact .inl (by simp)
  | _ => exact .inl rfl

/-- A step leaves the trace of commands alone, or it starts a command of a name that its call owns. -/
theorem ran_of_moves (hm : Moves site m i c m') :
    m'.ran = m.ran ∨ ∃ command rest, c.phase = .holding (command :: rest) ∧
      m'.ran = m.ran ++ [(c.name, command)] := by
  cases hm with
  | launch hp => exact .inr ⟨_, _, hp, rfl⟩
  | acquire _ hs =>
    obtain ⟨free, rfl, -⟩ := eq_of_takeSlot hs
    exact .inl rfl
  | plan | queue | leave => exact .inl (by simp)
  | _ => exact .inl rfl

/-- The call that moves is afterwards in a phase that it has entered. It is past its admission then, and
about to look its name up only if it has just been admitted. -/
theorem entered_of_moves (hc : m.calls[i]? = some c) (hm : Moves site m i c m') :
    ∃ p, m'.calls[i]? = some { c with phase := p } ∧ p ≠ .requested ∧ (p = .resolving → c.phase = .requested) := by
  have hself := fun p => enterAt_self (p := p) hc
  cases hm with
  | own hp => exact ⟨_, hself _, nofun, fun _ => hp⟩
  | @plan p => exact ⟨.planned p, by rw [enter_calls, noteIf_calls]; exact hself _, nofun, nofun⟩
  | @queue p => exact ⟨.queued p.commands, by rw [enter_calls, noteIf_calls]; exact hself _, nofun, nofun⟩
  | @leave o =>
    exact ⟨.closing o, by rw [enter_calls, giveSlot_calls, noteIf_calls]; exact hself _, nofun, nofun⟩
  | acquire _ hs =>
    obtain ⟨free, rfl, -⟩ := eq_of_takeSlot hs
    exact ⟨_, hself _, nofun, nofun⟩
  | spawn => exact ⟨_, enterAt_self (getElem?_append_of_eq_some hc _) _, nofun, nofun⟩
  | join | refuse | inherit | find | miss | record | gather | proceed | abandon | skip | exhaust | launch
  | pass | fail | publish => exact ⟨_, hself _, nofun, nofun⟩

theorem other_of_moves {c' : Call} (hm : Moves site m i c m') (hj : m.calls[j]? = some c') (hji : j ≠ i) :
    m'.calls[j]? = some c' := by
  obtain ⟨p, h | ⟨pl, h⟩⟩ := calls_of_moves hm
  · rw [h, enterAt_other _ hji, hj]
  · rw [h, enterAt_other _ hji, getElem?_append_of_eq_some hj]

/-- A call that owns its name after a step owned it before, or is the first to ask for it. -/
theorem owner_of_moves (hc : m.calls[i]? = some c) (hm : Moves site m i c m') {c' : Call}
    (hj : m'.calls[j]? = some c') (ho : c'.phase.owns = true) :
    m.ledger.records.get? c'.name = none ∨
      ∃ c₀, m.calls[j]? = some c₀ ∧ c₀.name = c'.name ∧ c₀.phase.owns = true := by
  have hold : ∀ {cs : List Call} {p : Phase}, cs[i]? = some c → (p.owns = true → c.phase.owns = true) →
      (enterAt cs i p)[j]? = some c' → ∃ c₀, cs[j]? = some c₀ ∧ c₀.name = c'.name ∧ c₀.phase.owns = true := by
    intro cs p hc hp hj
    rcases of_getElem?_enterAt hc hj with ⟨rfl, rfl⟩ | ⟨-, hj⟩
    · exact ⟨c, hc, rfl, hp ho⟩
    · exact ⟨c', hj, rfl, ho⟩
  cases hm with
  | own hp ha =>
    rcases of_getElem?_enterAt hc hj with ⟨rfl, rfl⟩ | ⟨-, hj⟩
    · exact .inl (Ledger.get?_of_own ha).2
    · exact .inr ⟨c', hj, rfl, ho⟩
  | spawn hp =>
    obtain ⟨c₀, hj', hn, ho'⟩ := hold (getElem?_append_of_eq_some hc _) (fun _ => by rw [hp]; rfl) hj
    rcases of_getElem?_append_map hj' with hj' | ⟨d, -, -, rfl⟩
    · exact .inr ⟨c₀, hj', hn, ho'⟩
    · cases ho'
  | acquire hp hs =>
    obtain ⟨free, rfl, -⟩ := eq_of_takeSlot hs
    exact .inr (hold hc (fun _ => by rw [hp]; rfl) hj)
  | plan hp | queue hp | leave hp =>
    simp only [enter_calls, giveSlot_calls, noteIf_calls] at hj
    exact .inr (hold hc (fun _ => by rw [hp]; rfl) hj)
  | join | refuse | inherit | publish => exact .inr (hold hc (fun h => by cases h) hj)
  | find hp | miss hp | record hp | gather hp | proceed hp | abandon hp | skip hp | exhaust hp | launch hp
  | pass hp | fail hp => exact .inr (hold hc (fun _ => by rw [hp]; rfl) hj)

/-! ## One moment -/

/-- A call stays as it is, or it is the one that moves. -/
theorem Next.call (hn : m.Next site m') (hc : m.calls[i]? = some c) :
    m'.calls[i]? = some c ∨ Moves site m i c m' := by
  cases hn with
  | @step j _ hs =>
    obtain ⟨c', hc', hm⟩ := step_iff.1 hs
    by_cases hij : i = j
    · subst hij
      rw [hc, Option.some.injEq] at hc'
      exact .inr (hc' ▸ hm)
    · exact .inl (other_of_moves hm hc hij)
  | start n => exact .inl (getElem?_append_of_eq_some hc _)
  | turn w => exact .inl hc

theorem Next.continues (hn : m.Next site m') : Continues m.calls m'.calls := by
  cases hn with
  | step hs =>
    obtain ⟨c, hc, hm⟩ := step_iff.1 hs
    exact continues_of_moves hc hm
  | start n => exact continues_append m.calls _
  | turn w => exact fun _ c hj => ⟨c, hj, rfl, rfl⟩

/-- What is settled stays settled. -/
theorem Next.settled (hn : m.Next site m') (hco : Coherent m.ledger m.calls)
    (h : m.ledger.records.get? n = some (.settled o)) : m'.ledger.records.get? n = some (.settled o) := by
  cases hn with
  | step hs =>
    obtain ⟨c, hc, hm⟩ := step_iff.1 hs
    -- the name of a record that a step makes or settles was not settled before
    have hne : ∀ {r : Option Record}, m.ledger.records.get? c.name = r → r ≠ some (.settled o) → n ≠ c.name := by
      rintro r hr hne rfl
      exact hne (hr.symm.trans h)
    rcases records_of_moves hco hc hm with hr | ⟨hr, hr'⟩ | ⟨o', hr, -, hr'⟩
    · rw [hr, h]
    · rw [hr', Ledger.records_get?_enroll, if_neg (hne hr nofun), h]
    · rw [hr', Ledger.records_get?_settle, if_neg (hne hr (by simp)), h]
  | start | turn => exact h

/-- A name that was requested stays so. -/
theorem Next.recorded (hn : m.Next site m') (hco : Coherent m.ledger m.calls)
    (h : m.ledger.records.get? n ≠ none) : m'.ledger.records.get? n ≠ none := by
  cases hn with
  | step hs =>
    obtain ⟨c, hc, hm⟩ := step_iff.1 hs
    rcases records_of_moves hco hc hm with hr | ⟨-, hr⟩ | ⟨o, -, -, hr⟩ <;> rw [hr]
    · exact h
    · rw [Ledger.records_get?_enroll]
      split
      · exact Option.some_ne_none _
      · exact h
    · rw [Ledger.records_get?_settle]
      split
      · exact Option.some_ne_none _
      · exact h
  | start | turn => exact h

/-- The trace of commands only grows. -/
theorem Next.ran (hn : m.Next site m') : m.ran <+: m'.ran := by
  cases hn with
  | step hs =>
    obtain ⟨c, -, hm⟩ := step_iff.1 hs
    rcases ran_of_moves hm with h | ⟨command, rest, -, h⟩
    · exact ⟨[], by rw [h, List.append_nil]⟩
    · exact ⟨_, h.symm⟩
  | start | turn => exact List.prefix_refl _

/-- No command is started for a name that is settled. -/
theorem Next.commandsOf_settled (hn : m.Next site m') (hco : Coherent m.ledger m.calls)
    (h : m.ledger.records.get? n = some (.settled o)) : commandsOf m'.ran n = commandsOf m.ran n := by
  cases hn with
  | step hs =>
    obtain ⟨c, hc, hm⟩ := step_iff.1 hs
    rcases ran_of_moves hm with hr | ⟨command, rest, hp, hr⟩ <;> rw [hr]
    refine commandsOf_append_other _ ?_ _
    rintro rfl
    rw [hco.owner_building hc (by rw [hp]; rfl)] at h
    cases h
  | start | turn => rfl

/-- A call that owns its name owned it before, or is the first to ask for it. -/
theorem Next.owner (hn : m.Next site m') (hj : m'.calls[j]? = some c) (ho : c.phase.owns = true) :
    m.ledger.records.get? c.name = none ∨
      ∃ c₀, m.calls[j]? = some c₀ ∧ c₀.name = c.name ∧ c₀.phase.owns = true := by
  cases hn with
  | step hs =>
    obtain ⟨c', hc', hm⟩ := step_iff.1 hs
    exact owner_of_moves hc' hm hj ho
  | start n =>
    simp only [Machine.start, Machine.request, List.getElem?_append] at hj
    split at hj
    · exact .inr ⟨c, hj, rfl, ho⟩
    · obtain rfl : c = { name := n, ancestors := [], phase := .requested } := by
        simpa using List.mem_of_getElem? hj
      cases ho
  | turn w => exact .inr ⟨c, hj, rfl, ho⟩

/-! ## One owner, one look-up -/

/-- `n` was requested, and no call but `i` owns it. -/
structure Sole (i : CallId) (n : Name) (m : Machine σ) : Prop where
  recorded : m.ledger.records.get? n ≠ none
  eq {j : CallId} {c : Call} : m.calls[j]? = some c → c.phase.owns = true → c.name = n → j = i

theorem sole_of_owner (hco : Coherent m.ledger m.calls) (hc : m.calls[i]? = some c)
    (ho : c.phase.owns = true) : Sole i c.name m where
  recorded := by simp [hco.owner_building hc ho]
  eq hj ho' hn := hco.owner_unique hj hc ho' ho hn

theorem Sole.next (h : Sole i n m) (hn : m.Next site m') (hco : Coherent m.ledger m.calls) : Sole i n m' where
  recorded := hn.recorded hco h.recorded
  eq hj ho hcn := by
    rcases hn.owner hj ho with hnone | ⟨c₀, hj₀, hn₀, ho₀⟩
    · exact absurd (hcn ▸ hnone) h.recorded
    · exact h.eq hj₀ ho₀ (hn₀.trans hcn)

/-- Call `i`, for `n`, is past its look-up, or never makes one. -/
def Past (i : CallId) (n : Name) (m : Machine σ) : Prop :=
  ∃ c, m.calls[i]? = some c ∧ c.name = n ∧ c.phase ≠ .requested ∧ c.phase ≠ .resolving

theorem Past.next (h : Past i n m) (hn : m.Next site m') : Past i n m' := by
  obtain ⟨c, hc, hcn, hq, hr⟩ := h
  rcases hn.call hc with hc' | hm
  · exact ⟨c, hc', hcn, hq, hr⟩
  · obtain ⟨p, hp, hpq, hpr⟩ := entered_of_moves hc hm
    exact ⟨_, hp, hcn, hpq, fun h => hq (hpr h)⟩

/-! ## What is done in a step -/

/-- What call `i`, which stands at `c`, does in a step that others can tell. -/
inductive Acts (site : Site σ) (m : Machine σ) (i : CallId) (c : Call) : Event → Prop
  | refuse {e : BuildError} : c.phase = .requested → m.ledger.admission c.name c.ancestors = .refuse e →
      Acts site m i c (.refuse i c.name e)
  | lookUp : c.phase = .resolving → Acts site m i c (.lookUp c.name (site.resolve m.world c.name))
  | start {command : Command} {rest : List Command} : c.phase = .holding (command :: rest) →
      Acts site m i c (.start c.name command)
  | finish {command : Command} {rest : List Command} : c.phase = .running command rest →
      Acts site m i c (.finish c.name (commandsOf m.ran c.name) (site.perform c.name command m.world).1)
  | publish {o : Outcome} : c.phase = .closing o → Acts site m i c (.publish c.name o)

theorem acts_of_event? {e : Event} (he : m.event? site i c = some e) : Acts site m i c e := by
  unfold event? at he
  split at he
  · next hp =>
    split at he <;> cases he
    next ha => exact .refuse hp ha
  · next hp =>
    cases he
    exact .lookUp hp
  · next hp =>
    cases he
    exact .start hp
  · next hp =>
    cases he
    exact .finish hp
  · next hp =>
    cases he
    exact .publish hp
  · cases he

theorem Does.exists_moves {e : Event} (h : m.Does site e m') :
    ∃ i c, m.calls[i]? = some c ∧ Acts site m i c e ∧ Moves site m i c m' := by
  obtain ⟨i, c, hc, he, hs⟩ := h
  obtain ⟨c', hc', hm⟩ := step_iff.1 hs
  rw [hc, Option.some.injEq] at hc'
  exact ⟨i, c, hc, acts_of_event? he, hc' ▸ hm⟩

theorem Does.of_refuse {e : BuildError} (h : m.Does site (.refuse i n e) m') :
    ∃ c, m.calls[i]? = some c ∧ c.name = n ∧ c.phase = .requested ∧
      m.ledger.admission c.name c.ancestors = .refuse e ∧ Moves site m i c m' := by
  obtain ⟨j, c, hc, he, hm⟩ := h.exists_moves
  cases he with
  | refuse hp ha => exact ⟨c, hc, rfl, hp, ha, hm⟩

theorem Does.of_lookUp {r : Resolution} (h : m.Does site (.lookUp n r) m') :
    ∃ i c, m.calls[i]? = some c ∧ c.name = n ∧ c.phase = .resolving ∧ site.resolve m.world n = r ∧
      Moves site m i c m' := by
  obtain ⟨i, c, hc, he, hm⟩ := h.exists_moves
  cases he with
  | lookUp hp => exact ⟨i, c, hc, rfl, hp, rfl, hm⟩

theorem Does.of_start {command : Command} (h : m.Does site (.start n command) m') :
    ∃ i c rest, m.calls[i]? = some c ∧ c.name = n ∧ c.phase = .holding (command :: rest) ∧
      Moves site m i c m' := by
  obtain ⟨i, c, hc, he, hm⟩ := h.exists_moves
  cases he with
  | start hp => exact ⟨i, c, _, hc, rfl, hp, hm⟩

theorem Does.of_finish {started : List Command} (h : m.Does site (.finish n started o) m') :
    ∃ i c command rest, m.calls[i]? = some c ∧ c.name = n ∧ c.phase = .running command rest ∧
      commandsOf m.ran n = started ∧ (site.perform n command m.world).1 = o ∧ Moves site m i c m' := by
  obtain ⟨i, c, hc, he, hm⟩ := h.exists_moves
  cases he with
  | finish hp => exact ⟨i, c, _, _, hc, rfl, hp, rfl, rfl, hm⟩

theorem Does.of_publish (h : m.Does site (.publish n o) m') :
    ∃ i c, m.calls[i]? = some c ∧ c.name = n ∧ c.phase = .closing o ∧ Moves site m i c m' := by
  obtain ⟨i, c, hc, he, hm⟩ := h.exists_moves
  cases he with
  | publish hp => exact ⟨i, c, hc, rfl, hp, hm⟩

/-- What an owner has published is on record. -/
theorem Does.settled (h : m.Does site (.publish n o) m') : m'.ledger.records.get? n = some (.settled o) := by
  obtain ⟨i, c, -, rfl, hp, hm⟩ := h.of_publish
  cases hm with
  | @publish o' hp' =>
    rw [hp, Phase.closing.injEq] at hp'
    subst hp'
    exact (Ledger.records_get?_settle _ _ _ _).trans (if_pos rfl)
  | _ => simp_all

/-- What is settled was so before, or its owner has just published it. -/
theorem Next.of_settled (hn : m.Next site m') (hco : Coherent m.ledger m.calls)
    (h : m'.ledger.records.get? n = some (.settled o)) :
    m.ledger.records.get? n = some (.settled o) ∨ m.Does site (.publish n o) m' := by
  cases hn with
  | @step i _ hs =>
    obtain ⟨c, hc, hm⟩ := step_iff.1 hs
    rcases records_of_moves hco hc hm with hr | ⟨-, hr⟩ | ⟨o', -, hp, hr⟩ <;> rw [hr] at h
    · exact .inl h
    · rw [Ledger.records_get?_enroll] at h
      split at h
      · cases h
      · exact .inl h
    · rw [Ledger.records_get?_settle] at h
      split at h
      · next hnc =>
        subst hnc
        cases h
        exact .inr ⟨i, c, hc, by rw [event?, hp], hs⟩
      · exact .inl h
  | start | turn => exact .inl h

end Machine

namespace Course

open Machine

variable {m : Nat → Machine σ} {k l : Nat}

theorem coherent (h : Course site ok jobs m) (k : Nat) : Coherent (m k).ledger (m k).calls :=
  reachable_coherent (h.reachable k)

/-- What is settled stays settled, and no command is started for it any more. -/
theorem settled (h : Course site ok jobs m) (hkl : k ≤ l)
    (hs : (m k).ledger.records.get? n = some (.settled o)) :
    (m l).ledger.records.get? n = some (.settled o) ∧ commandsOf (m l).ran n = commandsOf (m k).ran n := by
  refine h.lasting (P := fun m' => m'.ledger.records.get? n = some (.settled o) ∧
    commandsOf m'.ran n = commandsOf (m k).ran n) (fun j hn hj => ?_) hkl ⟨hs, rfl⟩
  exact ⟨hn.settled (h.coherent j) hj.1, (hn.commandsOf_settled (h.coherent j) hj.1).trans hj.2⟩

/-- What is settled was published by its owner. -/
theorem settled_iff (h : Course site ok jobs m) :
    (m k).ledger.records.get? n = some (.settled o) ↔ Happened site m k (.publish n o) := by
  constructor
  · intro hs
    induction k with
    | zero =>
      obtain ⟨free, w, hm⟩ := h.zero_eq
      rw [hm] at hs
      cases hs
    | succ k ih =>
      rcases (h.next k).of_settled (h.coherent k) hs with hs | hd
      · obtain ⟨j, hj, hd⟩ := ih hs
        exact ⟨j, Nat.lt_succ_of_lt hj, hd⟩
      · exact ⟨k, Nat.lt_succ_self k, hd⟩
  · rintro ⟨j, hj, hd⟩
    exact (h.settled hj hd.settled).1

theorem ran (h : Course site ok jobs m) (hkl : k ≤ l) : (m k).ran <+: (m l).ran :=
  h.lasting (P := fun m' => (m k).ran <+: m'.ran) (fun _ hn hj => hj.trans hn.ran) hkl (List.prefix_refl _)

theorem continues (h : Course site ok jobs m) (hkl : k ≤ l) : Continues (m k).calls (m l).calls :=
  h.lasting (P := fun m' => Continues (m k).calls m'.calls) (fun _ hn hj => hj.trans hn.continues) hkl
    fun _ c hj => ⟨c, hj, rfl, rfl⟩

theorem sole (h : Course site ok jobs m) (hkl : k ≤ l) (hs : Sole i n (m k)) : Sole i n (m l) :=
  h.lasting (fun j hn hj => hj.next hn (h.coherent j)) hkl hs

theorem past (h : Course site ok jobs m) (hkl : k ≤ l) (hp : Past i n (m k)) : Past i n (m l) :=
  h.lasting (fun _ hn hj => hj.next hn) hkl hp

/-- Two calls that ever own one name are one call. -/
theorem owner_unique (h : Course site ok jobs m) {c c' : Call} (hi : (m k).calls[i]? = some c)
    (hj : (m l).calls[j]? = some c') (ho : c.phase.owns = true) (ho' : c'.phase.owns = true)
    (hn : c.name = c'.name) : i = j := by
  rcases Nat.le_total k l with hkl | hlk
  · exact ((h.sole hkl (sole_of_owner (h.coherent k) hi ho)).eq hj ho' hn.symm).symm
  · exact (h.sole hlk (sole_of_owner (h.coherent l) hj ho')).eq hi ho hn

/-- A name is not looked up again. -/
theorem not_lookUp (h : Course site ok jobs m) (hkl : k < l) {r r' : Resolution}
    (hk : (m k).Does site (.lookUp n r) (m (k + 1))) : ¬ (m l).Does site (.lookUp n r') (m (l + 1)) := by
  intro hl
  obtain ⟨i, c, hc, hcn, hp, -, hm⟩ := hk.of_lookUp
  obtain ⟨j, c', hc', hcn', hp', -, -⟩ := hl.of_lookUp
  obtain rfl := h.owner_unique hc hc' (by rw [hp]; rfl) (by rw [hp']; rfl) (hcn.trans hcn'.symm)
  -- the owner is past its look-up from moment `k + 1` on
  obtain ⟨p, hc₁, hpq, hpr⟩ := entered_of_moves hc hm
  have hpast : Past i n (m (k + 1)) :=
    ⟨_, hc₁, hcn, hpq, fun hr => by rw [hpr hr] at hp; cases hp⟩
  obtain ⟨c₂, hc₂, -, -, hr⟩ := h.past hkl hpast
  rw [hc', Option.some.injEq] at hc₂
  exact hr (hc₂ ▸ hp')

/-- A name is looked up once. -/
theorem lookUp_unique (h : Course site ok jobs m) {r r' : Resolution}
    (hk : (m k).Does site (.lookUp n r) (m (k + 1))) (hl : (m l).Does site (.lookUp n r') (m (l + 1))) :
    k = l ∧ r = r' := by
  rcases Nat.lt_trichotomy k l with hkl | rfl | hlk
  · exact absurd hl (h.not_lookUp hkl hk)
  · obtain ⟨-, -, -, -, -, hr, -⟩ := hk.of_lookUp
    obtain ⟨-, -, -, -, -, hr', -⟩ := hl.of_lookUp
    exact ⟨rfl, hr.symm.trans hr'⟩
  · exact absurd hk (h.not_lookUp hlk hl)

end Course

end Buildfile.Build
