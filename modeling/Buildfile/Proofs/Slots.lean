import Buildfile.Proofs.Progress
import Buildfile.Proofs.Succession
/-!
# Who holds the job slots

On a course whose jobs are bounded, a call holds a slot from the step in which it takes one to the step in
which it gives one back. The calls that hold one and the free slots are always as many as the bound says. A
call gives its slot back after its last command and never takes another, and while it holds the slot it waits
for nobody.
-/

namespace Buildfile.Build

variable {σ : Type} {site : Site σ} {ok : σ → Prop} {m m' : Machine σ} {i : CallId} {c : Call} {n : Name}

/-- Whether a call in this phase is past its commands. -/
def Phase.isOver : Phase → Bool
  | closing _ | returned _ => true
  | _ => false

theorem Phase.owns_of_holdsSlot {p : Phase} (h : p.holdsSlot = true) : p.owns = true := by
  cases p <;> simp_all [holdsSlot, owns]

theorem Phase.not_holdsSlot_of_isOver {p : Phase} (h : p.isOver = true) : p.holdsSlot = false := by
  cases p <;> simp_all [holdsSlot, isOver]

namespace Machine

/-- Call `i` takes a job slot in this step. -/
def Takes (site : Site σ) (m : Machine σ) (i : CallId) (m' : Machine σ) : Prop :=
  m.step site i = some m' ∧ ∃ free, m.slots = some (free + 1) ∧ m'.slots = some free

/-- Call `i` gives a job slot back in this step. -/
def Gives (site : Site σ) (m : Machine σ) (i : CallId) (m' : Machine σ) : Prop :=
  m.step site i = some m' ∧ ∃ free, m.slots = some free ∧ m'.slots = some (free + 1)

/-- A command of `n` is started in this step, or ends in it. -/
def Works (site : Site σ) (m m' : Machine σ) (n : Name) : Prop :=
  (∃ command, m.Does site (.start n command) m') ∨ ∃ started o, m.Does site (.finish n started o) m'

/-- Call `i` is in a phase in which it holds a slot. -/
def HasSlot (m : Machine σ) (i : CallId) : Prop := ∃ c, m.calls[i]? = some c ∧ c.phase.holdsSlot = true

/-- The names whose commands are being run: those of the calls that hold a slot. -/
def atWork (m : Machine σ) : List Name := (m.calls.filter (·.phase.holdsSlot)).map (·.name)

/-- Call `i` is past its commands. -/
def Over (m : Machine σ) (i : CallId) : Prop := ∃ c, m.calls[i]? = some c ∧ c.phase.isOver = true

/-! ## One step -/

/-- A step takes a slot for a call that had none, or gives back that of a call, or changes neither the free
slots nor whether its call has one. -/
theorem slots_of_moves (hc : m.calls[i]? = some c) (hm : Moves site m i c m') :
    ∃ p, m'.calls[i]? = some { c with phase := p } ∧
      ((m'.slots = m.slots ∧ p.holdsSlot = c.phase.holdsSlot) ∨
        (m.slots = m'.slots.map (· + 1) ∧ p.holdsSlot = true) ∨
        (m'.slots = m.slots.map (· + 1) ∧ p.holdsSlot = false)) := by
  have hself := fun p => enterAt_self (p := p) hc
  cases hm with
  | acquire hp hs =>
    obtain ⟨free, rfl, hfree⟩ := eq_of_takeSlot hs
    refine ⟨_, hself _, .inr (.inl ⟨?_, rfl⟩)⟩
    rcases hfree with ⟨h, rfl⟩ | ⟨k, h, rfl⟩
    · exact h
    · exact h
  | @leave o =>
    refine ⟨.closing o, ?_, .inr (.inr ⟨?_, rfl⟩)⟩
    · rw [enter_calls, giveSlot_calls, noteIf_calls]
      exact hself _
    · simp
  | @plan p _ hp =>
    refine ⟨.planned p, ?_, .inl ⟨by simp, by rw [hp]; rfl⟩⟩
    rw [enter_calls, noteIf_calls]
    exact hself _
  | @queue p _ hp =>
    refine ⟨.queued p.commands, ?_, .inl ⟨by simp, by rw [hp]; rfl⟩⟩
    rw [enter_calls, noteIf_calls]
    exact hself _
  | spawn hp => exact ⟨_, enterAt_self (getElem?_append_of_eq_some hc _) _, .inl ⟨rfl, by rw [hp]; rfl⟩⟩
  | own hp | join hp | refuse hp | inherit hp | find hp | miss hp | record hp | gather hp | proceed hp | abandon hp
  | skip hp | exhaust hp | launch hp | pass hp | fail hp | publish hp =>
    exact ⟨_, hself _, .inl ⟨rfl, by rw [hp]; rfl⟩⟩

/-- A call after a moment: it was there before, or waits for its admission, or is the one that moved. -/
theorem Next.of_call (hn : m.Next site m') (hc : m'.calls[i]? = some c) :
    m.calls[i]? = some c ∨ c.phase = .requested ∨ m.step site i = some m' := by
  cases hn with
  | @step j _ hs =>
    by_cases hij : i = j
    · exact .inr (.inr (hij ▸ hs))
    · obtain ⟨c', hc', hm⟩ := step_iff.1 hs
      obtain ⟨p, h | ⟨pl, h⟩⟩ := calls_of_moves hm
      · rw [h, enterAt_other _ hij] at hc
        exact .inl hc
      · rw [h, enterAt_other _ hij] at hc
        rcases of_getElem?_append_map hc with hc | ⟨d, -, -, rfl⟩
        · exact .inl hc
        · exact .inr (.inl rfl)
  | start n =>
    simp only [Machine.start, Machine.request, List.getElem?_append] at hc
    split at hc
    · exact .inl hc
    · obtain rfl : c = { name := n, ancestors := [], phase := .requested } := by
        simpa using List.mem_of_getElem? hc
      exact .inr (.inl rfl)
  | turn w => exact .inl hc

theorem Takes.hasSlot (h : m.Takes site i m') : m'.HasSlot i := by
  obtain ⟨hs, free, hfree, hfree'⟩ := h
  obtain ⟨c, hc, hm⟩ := step_iff.1 hs
  obtain ⟨p, hp, ⟨hslots, -⟩ | ⟨-, hheld⟩ | ⟨hslots, -⟩⟩ := slots_of_moves hc hm
  · rw [hfree, hfree'] at hslots
    simp at hslots
  · exact ⟨_, hp, hheld⟩
  · rw [hfree, hfree'] at hslots
    simp at hslots
    omega

theorem Gives.not_hasSlot (h : m.Gives site i m') : ¬ m'.HasSlot i := by
  obtain ⟨hs, free, hfree, hfree'⟩ := h
  obtain ⟨c, hc, hm⟩ := step_iff.1 hs
  obtain ⟨p, hp, ⟨hslots, -⟩ | ⟨hslots, -⟩ | ⟨-, hheld⟩⟩ := slots_of_moves hc hm
  · rw [hfree, hfree'] at hslots
    simp at hslots
  · rw [hfree, hfree'] at hslots
    simp at hslots
    omega
  · rintro ⟨c', hc', hheld'⟩
    rw [hp, Option.some.injEq] at hc'
    subst hc'
    rw [hheld] at hheld'
    cases hheld'

/-- Only who takes a slot gets one, and only who gives it back loses it. -/
theorem Next.hasSlot_iff (hn : m.Next site m') (hbound : ∃ free, m.slots = some free) (ht : ¬ m.Takes site i m')
    (hg : ¬ m.Gives site i m') : m'.HasSlot i ↔ m.HasSlot i := by
  obtain ⟨free, hfree⟩ := hbound
  by_cases hs : m.step site i = some m'
  · obtain ⟨c, hc, hm⟩ := step_iff.1 hs
    obtain ⟨p, hp, ⟨-, hheld⟩ | ⟨hslots, -⟩ | ⟨hslots, -⟩⟩ := slots_of_moves hc hm
    · simp [HasSlot, hp, hc, hheld]
    · rw [hfree, eq_comm, Option.map_eq_some_iff] at hslots
      obtain ⟨k, hk, rfl⟩ := hslots
      exact absurd ⟨hs, k, hfree, hk⟩ ht
    · rw [hfree] at hslots
      exact absurd ⟨hs, free, hfree, hslots⟩ hg
  · constructor
    · rintro ⟨c, hc, hheld⟩
      rcases hn.of_call hc with hc' | hreq | hs'
      · exact ⟨c, hc', hheld⟩
      · rw [hreq] at hheld
        cases hheld
      · exact absurd hs' hs
    · rintro ⟨c, hc, hheld⟩
      rcases hn.call hc with hc' | hm
      · exact ⟨c, hc', hheld⟩
      · exact absurd (step_iff.2 ⟨c, hc, hm⟩) hs

/-- A call that has a slot keeps it until it is past its commands, and stays past them. -/
theorem Next.hasSlot_or_over (hn : m.Next site m') (h : m.HasSlot i ∨ m.Over i) : m'.HasSlot i ∨ m'.Over i := by
  obtain ⟨c, hc, hphase⟩ : ∃ c, m.calls[i]? = some c ∧ (c.phase.holdsSlot = true ∨ c.phase.isOver = true) := by
    rcases h with ⟨c, hc, h⟩ | ⟨c, hc, h⟩
    · exact ⟨c, hc, .inl h⟩
    · exact ⟨c, hc, .inr h⟩
  rcases hn.call hc with hc' | hm
  · rcases hphase with h | h
    · exact .inl ⟨c, hc', h⟩
    · exact .inr ⟨c, hc', h⟩
  · have hself := fun p => enterAt_self (p := p) hc
    cases hm with
    | exhaust => exact .inl ⟨_, hself _, rfl⟩
    | launch => exact .inl ⟨_, hself _, rfl⟩
    | pass => exact .inl ⟨_, hself _, rfl⟩
    | fail => exact .inl ⟨_, hself _, rfl⟩
    | @leave o =>
      refine .inr ⟨{ c with phase := .closing o }, ?_, rfl⟩
      rw [enter_calls, giveSlot_calls, noteIf_calls]
      exact hself _
    | publish => exact .inr ⟨_, hself _, rfl⟩
    | _ => simp_all [Phase.holdsSlot, Phase.isOver]

theorem Next.over (hn : m.Next site m') (h : m.Over i) : m'.Over i := by
  obtain ⟨c, hc, hover⟩ := h
  rcases hn.call hc with hc' | hm
  · exact ⟨c, hc', hover⟩
  · cases hm with
    | publish => exact ⟨_, enterAt_self hc _, rfl⟩
    | _ => simp_all [Phase.isOver]

theorem Over.not_hasSlot (h : m.Over i) : ¬ m.HasSlot i := by
  rintro ⟨c, hc, hheld⟩
  obtain ⟨c', hc', hover⟩ := h
  rw [hc, Option.some.injEq] at hc'
  subst hc'
  rw [Phase.not_holdsSlot_of_isOver hover] at hheld
  cases hheld

/-- A command is started and ends while the call that runs it has a slot. -/
theorem Works.exists_call (h : Works site m m' n) :
    ∃ i c, m.calls[i]? = some c ∧ c.name = n ∧ c.phase.holdsSlot = true ∧ m'.HasSlot i := by
  rcases h with ⟨command, h⟩ | ⟨started, o, h⟩
  · obtain ⟨i, c, rest, hc, hcn, hp, hm⟩ := h.of_start
    refine ⟨i, c, hc, hcn, by rw [hp]; rfl, ?_⟩
    cases hm with
    | launch => exact ⟨_, enterAt_self hc _, rfl⟩
    | _ => simp_all
  · obtain ⟨i, c, command, rest, hc, hcn, hp, -, -, hm⟩ := h.of_finish
    refine ⟨i, c, hc, hcn, by rw [hp]; rfl, ?_⟩
    cases hm with
    | pass => exact ⟨_, enterAt_self hc _, rfl⟩
    | fail => exact ⟨_, enterAt_self hc _, rfl⟩
    | _ => simp_all

/-! ## Who is at work -/

theorem mem_atWork : n ∈ m.atWork ↔
    ∃ (i : CallId) (c : Call), m.calls[i]? = some c ∧ c.name = n ∧ c.phase.holdsSlot = true := by
  unfold atWork
  rw [List.mem_map]
  constructor
  · rintro ⟨c, hc, hn⟩
    obtain ⟨hmem, hheld⟩ := List.mem_filter.1 hc
    obtain ⟨i, hi⟩ := List.getElem?_of_mem hmem
    exact ⟨i, c, hi, hn, hheld⟩
  · rintro ⟨i, c, hc, hn, hheld⟩
    exact ⟨c, List.mem_filter.2 ⟨List.mem_of_getElem? hc, hheld⟩, hn⟩

theorem length_atWork (m : Machine σ) : m.atWork.length = m.calls.countP (·.phase.holdsSlot) := by
  rw [atWork, List.length_map, List.countP_eq_length_filter]

/-- No name is at work twice. -/
theorem nodup_atWork (hco : Coherent m.ledger m.calls) : m.atWork.Nodup := by
  unfold atWork List.Nodup
  rw [List.pairwise_map, List.pairwise_filter, List.pairwise_iff_getElem]
  intro i j hi hj hij hheld hheld' hn
  have heq := hco.owner_unique (List.getElem?_eq_getElem hi) (List.getElem?_eq_getElem hj)
    (Phase.owns_of_holdsSlot hheld) (Phase.owns_of_holdsSlot hheld') hn
  exact absurd heq (Nat.ne_of_lt hij)

theorem active_le_length_atWork (m : Machine σ) : m.active ≤ m.atWork.length := by
  rw [length_atWork, active]
  refine List.countP_mono_left fun c _ h => ?_
  cases hp : c.phase <;> simp_all [Phase.isRunning, Phase.holdsSlot]

end Machine

namespace Course

open Machine

variable {bound : Int} {m : Nat → Machine σ} {k l t : Nat}

/-! ## Moments of a course -/

/-- Call `i` has taken a slot before moment `k` and has not given it back since. -/
def Holds (site : Site σ) (m : Nat → Machine σ) (k : Nat) (i : CallId) : Prop :=
  ∃ j < k, (m j).Takes site i (m (j + 1)) ∧ ∀ l, j < l → l < k → ¬ (m l).Gives site i (m (l + 1))

theorem holds_succ : Holds site m (k + 1) i ↔
    (m k).Takes site i (m (k + 1)) ∨ (Holds site m k i ∧ ¬ (m k).Gives site i (m (k + 1))) := by
  constructor
  · rintro ⟨j, hj, htakes, hkeeps⟩
    obtain rfl | hjk := Nat.eq_or_lt_of_le (Nat.le_of_lt_succ hj)
    · exact .inl htakes
    · exact .inr ⟨⟨j, hjk, htakes, fun l hjl hlk => hkeeps l hjl (by omega)⟩, hkeeps k hjk (by omega)⟩
  · rintro (htakes | ⟨⟨j, hj, htakes, hkeeps⟩, hlast⟩)
    · exact ⟨k, by omega, htakes, fun l hkl hlk => by omega⟩
    · refine ⟨j, by omega, htakes, fun l hjl hlk => ?_⟩
      obtain rfl | hlt := Nat.eq_or_lt_of_le (Nat.le_of_lt_succ hlk)
      · exact hlast
      · exact hkeeps l hjl hlt

section

variable (h : Course site ok (some bound) m)

include h

theorem exists_slots (k : Nat) : ∃ free : Nat, (m k).slots = some free ∧ ((m k).atWork.length : Int) + free = bound := by
  rcases reachable_slotsKept (h.reachable k) with ⟨hnone, -⟩ | ⟨b, free, hb, hfree, hsum⟩
  · cases hnone
  · rw [Option.some.injEq] at hb
    rw [← length_atWork] at hsum
    exact ⟨free, hfree, by omega⟩

/-- Who has taken a slot and has not given it back is in a phase in which a slot is held. -/
theorem holds_iff : Holds site m k i ↔ (m k).HasSlot i := by
  induction k with
  | zero =>
    obtain ⟨free, w, hm⟩ := h.zero_eq
    constructor
    · rintro ⟨j, hj, -⟩
      omega
    · rintro ⟨c, hc, -⟩
      rw [hm] at hc
      simp at hc
  | succ k ih =>
    rw [holds_succ, ih]
    obtain ⟨free, hfree, -⟩ := h.exists_slots k
    by_cases htakes : (m k).Takes site i (m (k + 1))
    · simp [htakes, htakes.hasSlot]
    by_cases hgives : (m k).Gives site i (m (k + 1))
    · simp [htakes, hgives, hgives.not_hasSlot]
    · simp [htakes, hgives, (h.next k).hasSlot_iff ⟨free, hfree⟩ htakes hgives]

/-- Between two moments at which a call has a slot it has one all the time. -/
theorem hasSlot_between (hk : (m k).HasSlot i) (hl : (m l).HasSlot i) (hkt : k ≤ t) (htl : t ≤ l) :
    (m t).HasSlot i := by
  have ht : (m t).HasSlot i ∨ (m t).Over i :=
    h.lasting (P := fun m' => m'.HasSlot i ∨ m'.Over i) (fun _ hn => hn.hasSlot_or_over) hkt (.inl hk)
  rcases ht with ht | ht
  · exact ht
  · have hover : (m l).Over i := h.lasting (P := fun m' => m'.Over i) (fun _ hn => hn.over) htl ht
    exact absurd hl hover.not_hasSlot

/-- With a bound on the jobs, at every moment:

* the targets at work and the free slots are as many as the bound says;
* a target is at work exactly if a call for it has taken a slot and has not given it back, and no more commands
  are running than there are targets at work;
* from the first to the last of the commands of a target one call holds its slot all the time;
* a call that holds a slot waits for no other, and can take a step;
* if no target is at work, all slots are free. -/
theorem job_slots (k : Nat) :
    (∃ free : Nat, (m k).slots = some free ∧ ((m k).atWork.length : Int) + free = bound) ∧
    (m k).atWork.Nodup ∧
    (∀ n, n ∈ (m k).atWork ↔ ∃ i c, (m k).calls[i]? = some c ∧ c.name = n ∧ Holds site m k i) ∧
    (m k).active ≤ (m k).atWork.length ∧
    (∀ n l, k ≤ l → Works site (m k) (m (k + 1)) n → Works site (m l) (m (l + 1)) n → ∃ i, ∀ t, k ≤ t → t ≤ l + 1 →
      Holds site m t i ∧ ∃ c, (m t).calls[i]? = some c ∧ c.name = n) ∧
    (∀ i, Holds site m k i → (m k).HasSlot i ∧ (∀ j, ¬ (m k).WaitsFor i j) ∧ ∃ m', (m k).step site i = some m') ∧
    ((m k).atWork = [] → (m k).slots = some bound.toNat) := by
  obtain ⟨free, hfree, hsum⟩ := h.exists_slots k
  refine ⟨⟨free, hfree, hsum⟩, nodup_atWork (h.coherent k), fun n => ?_, active_le_length_atWork _,
    fun n l hkl hk hl => ?_, fun i hi => ?_, fun hnone => ?_⟩
  · rw [mem_atWork]
    constructor
    · rintro ⟨i, c, hc, hn, hheld⟩
      exact ⟨i, c, hc, hn, h.holds_iff.2 ⟨c, hc, hheld⟩⟩
    · rintro ⟨i, c, hc, hn, hholds⟩
      obtain ⟨c', hc', hheld⟩ := h.holds_iff.1 hholds
      rw [hc, Option.some.injEq] at hc'
      exact ⟨i, c, hc, hn, hc' ▸ hheld⟩
  · obtain ⟨i, c, hc, hn, hheld, -⟩ := hk.exists_call
    obtain ⟨j, c', hc', hn', hheld', hlast⟩ := hl.exists_call
    -- both commands are run by the one call that owns the name
    obtain rfl := h.owner_unique hc hc' (Phase.owns_of_holdsSlot hheld) (Phase.owns_of_holdsSlot hheld')
      (hn.trans hn'.symm)
    refine ⟨i, fun t hkt htl => ?_⟩
    obtain ⟨c'', hc'', hname, -⟩ := h.continues hkt i c hc
    exact ⟨h.holds_iff.2 (h.hasSlot_between ⟨c, hc, hheld⟩ hlast hkt htl), c'', hc'', hname.trans hn⟩
  · obtain ⟨c, hc, hheld⟩ := h.holds_iff.1 hi
    refine ⟨⟨c, hc, hheld⟩, fun j hwait => ?_, step_of_holdsSlot hc hheld⟩
    rw [(hwait.phase hc).2] at hheld
    cases hheld
  · rw [hnone] at hsum
    rw [hfree, ← hsum]
    simp

end

/-- Two targets and one slot; the first has it while its command runs, and gives it back when that crashes. -/
theorem job_slots_crash :
    let rule (n : Name) : Rule := { name := n, commands := [{ text := lit "make" }] }
    let site : Site Unit := .fixed { rules := [rule (lit "a"), rule (lit "b")] } (fun _ => false)
      fun n _ => if n = lit "a" then some (.crash .embeddedNul) else none
    ∃ m : Nat → Machine Unit, Course site (fun _ => True) (some 1) m ∧
      (m 8).atWork = [lit "a"] ∧ (m 8).slots = some 0 ∧ (m 10).atWork = [] ∧ (m 10).slots = some 1 ∧
      ∃ i, ∀ t, 5 ≤ t → t ≤ 9 → Holds site m t i := by
  intro rule site
  let m₀ : Machine Unit := { slots := some 1, world := () }
  let deeds : List (Deed Unit) := [.start (lit "a"), .start (lit "b")] ++ [0, 0, 0, 0, 1, 1, 0, 0].map .step
  have hcourse : Course site (fun _ => True) (some 1) (m₀.after site deeds) :=
    .of_deeds (w := ()) rfl deeds fun _ => trivial
  have hstart : Works site (m₀.after site deeds 5) (m₀.after site deeds 6) (lit "a") :=
    .inl ⟨{ text := lit "make" }, does_after (i := 0) rfl (by decide +kernel) (by decide +kernel)⟩
  have hfinish : Works site (m₀.after site deeds 8) (m₀.after site deeds 9) (lit "a") :=
    .inr ⟨[{ text := lit "make" }], some (.crash .embeddedNul), does_after (i := 0) rfl (by decide +kernel)
      (by decide +kernel)⟩
  obtain ⟨-, -, -, -, hwork, -⟩ := job_slots hcourse 5
  obtain ⟨i, hi⟩ := hwork (lit "a") 8 (by omega) hstart hfinish
  have hnone : (m₀.after site deeds 10).atWork = [] := by decide +kernel
  obtain ⟨-, -, -, -, -, -, hfree⟩ := job_slots hcourse 10
  exact ⟨_, hcourse, by decide +kernel, by decide +kernel, hnone, hfree hnone, i, fun t ht ht' => (hi t ht ht').1⟩

end Course

end Buildfile.Build
