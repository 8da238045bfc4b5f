import Buildfile.Build.Run
import Mathlib.Logic.Relation
/-!
# What a step does

`Moves` lists everything that a call can do in one step: from which phase, under which condition,
and what becomes of the machine. `step_iff` says that the list is exact, so whatever is to be shown
of a step is shown case by case along `Moves`, and nothing else opens `advance`.
-/

namespace Buildfile.Build.Machine

variable {σ : Type}

/-- The machine after a note, if there is one to take. -/
def noteIf (site : Site σ) (m : Machine σ) (n : Option Note) : Machine σ := n.elim m (m.note site)

/-- The machine with a call for each of `ds`. -/
def requestAll (m : Machine σ) (ds ancestors : List Name) : Machine σ :=
  { m with calls := m.calls ++ ds.map fun d => { name := d, ancestors, phase := .requested } }

theorem foldl_request (m : Machine σ) (ds ancestors : List Name) :
    ds.foldl (fun m d => m.request d ancestors) m = m.requestAll ds ancestors := by
  induction ds generalizing m with
  | nil => simp [requestAll]
  | cons d ds ih => rw [List.foldl_cons, ih]; simp [request, requestAll]

section Fields
variable (site : Site σ) (m : Machine σ) (i : CallId) (p : Phase) (f : Ledger → Ledger) (n : Option Note)

@[simp] theorem enter_ledger : (m.enter i p).ledger = m.ledger := rfl
@[simp] theorem enter_calls : (m.enter i p).calls = m.calls.modify i fun c => { c with phase := p } := rfl
@[simp] theorem enter_slots : (m.enter i p).slots = m.slots := rfl
@[simp] theorem enter_ran : (m.enter i p).ran = m.ran := rfl
@[simp] theorem enter_world : (m.enter i p).world = m.world := rfl

@[simp] theorem update_ledger : (m.update f).ledger = f m.ledger := rfl
@[simp] theorem update_calls : (m.update f).calls = m.calls := rfl
@[simp] theorem update_slots : (m.update f).slots = m.slots := rfl
@[simp] theorem update_ran : (m.update f).ran = m.ran := rfl
@[simp] theorem update_world : (m.update f).world = m.world := rfl

@[simp] theorem note_ledger (k : Note) : (m.note site k).ledger = m.ledger := rfl
@[simp] theorem note_calls (k : Note) : (m.note site k).calls = m.calls := rfl
@[simp] theorem note_slots (k : Note) : (m.note site k).slots = m.slots := rfl
@[simp] theorem note_ran (k : Note) : (m.note site k).ran = m.ran := rfl

@[simp] theorem noteIf_ledger : (m.noteIf site n).ledger = m.ledger := by cases n <;> rfl
@[simp] theorem noteIf_calls : (m.noteIf site n).calls = m.calls := by cases n <;> rfl
@[simp] theorem noteIf_slots : (m.noteIf site n).slots = m.slots := by cases n <;> rfl
@[simp] theorem noteIf_ran : (m.noteIf site n).ran = m.ran := by cases n <;> rfl

@[simp] theorem giveSlot_ledger : m.giveSlot.ledger = m.ledger := rfl
@[simp] theorem giveSlot_calls : m.giveSlot.calls = m.calls := rfl
@[simp] theorem giveSlot_slots : m.giveSlot.slots = m.slots.map (· + 1) := rfl
@[simp] theorem giveSlot_ran : m.giveSlot.ran = m.ran := rfl

@[simp] theorem requestAll_ledger (ds as : List Name) : (m.requestAll ds as).ledger = m.ledger := rfl
@[simp] theorem requestAll_calls (ds as : List Name) : (m.requestAll ds as).calls =
    m.calls ++ ds.map fun d => { name := d, ancestors := as, phase := .requested } := rfl
@[simp] theorem requestAll_slots (ds as : List Name) : (m.requestAll ds as).slots = m.slots := rfl
@[simp] theorem requestAll_ran (ds as : List Name) : (m.requestAll ds as).ran = m.ran := rfl

end Fields

/-- Taking a slot changes the free slots alone. -/
theorem eq_of_takeSlot {m m' : Machine σ} (h : m.takeSlot = some m') :
    ∃ free, m' = { m with slots := free } ∧
      (m.slots = none ∧ free = none ∨ ∃ k, m.slots = some (k + 1) ∧ free = some k) := by
  unfold takeSlot at h
  split at h
  · next hs =>
    cases h
    exact ⟨none, by rw [← hs], .inl ⟨hs, rfl⟩⟩
  · cases h
  · next k hs =>
    cases h
    exact ⟨some k, rfl, .inr ⟨k, hs, rfl⟩⟩

/-- The note that the end of a target's commands calls for. -/
def finishNote? (n : Name) (o : Outcome) : Option Note := if o = none then some (.finished n) else none

/-- What call `i`, which stands at `c`, can do in one step. -/
inductive Moves (site : Site σ) (m : Machine σ) (i : CallId) (c : Call) : Machine σ → Prop
  /-- It is the first call for its name. -/
  | own : c.phase = .requested → m.ledger.admission c.name c.ancestors = .own →
      Moves site m i c ((m.update (·.enroll c.name)).enter i .resolving)
  | join : c.phase = .requested → m.ledger.admission c.name c.ancestors = .join →
      Moves site m i c ((m.note site (.joining c.name)).enter i .joined)
  | refuse {e : BuildError} : c.phase = .requested → m.ledger.admission c.name c.ancestors = .refuse e →
      Moves site m i c (m.enter i (.returned (some (.error e))))
  /-- It takes over the outcome of the call that owns its name. -/
  | inherit {o : Outcome} : c.phase = .joined → m.ledger.outcome? c.name = some o →
      Moves site m i c (m.enter i (.returned o))
  | plan {p : Plan} {pattern : Option Name} : c.phase = .resolving →
      site.resolve m.world c.name = .planned p pattern → p.dependencies ≠ [] →
      Moves site m i c ((m.noteIf site ((Resolution.planned p pattern).note? c.name)).enter i (.planned p))
  /-- Its plan has no dependencies. -/
  | queue {p : Plan} {pattern : Option Name} : c.phase = .resolving →
      site.resolve m.world c.name = .planned p pattern → p.dependencies = [] →
      Moves site m i c ((m.noteIf site ((Resolution.planned p pattern).note? c.name)).enter i
        (.queued p.commands))
  | find : c.phase = .resolving → site.resolve m.world c.name = .present →
      Moves site m i c ((m.note site (.existing c.name)).enter i (.closing none))
  | miss : c.phase = .resolving → site.resolve m.world c.name = .missing →
      Moves site m i c (m.enter i (.closing (some (.error (.unknownTarget c.name)))))
  | record {p : Plan} : c.phase = .planned p →
      Moves site m i c ((m.update (·.await c.name p.dependencies)).enter i (.recorded p))
  /-- It starts the calls for its dependencies. -/
  | spawn {p : Plan} : c.phase = .recorded p →
      Moves site m i c ((m.requestAll p.dependencies (c.ancestors ++ [c.name])).enter i
        (.waiting p (List.range' m.calls.length p.dependencies.length)))
  /-- The calls for its dependencies have all returned. -/
  | gather {p : Plan} {calls : List CallId} {os : List Outcome} : c.phase = .waiting p calls →
      calls.mapM m.result? = some os →
      Moves site m i c (m.enter i (.gathered p (blame c.name (p.dependencies.zip os))))
  /-- It forgets its waits, and its dependencies have all succeeded. -/
  | proceed {p : Plan} : c.phase = .gathered p none →
      Moves site m i c ((m.update (·.release c.name)).enter i (.queued p.commands))
  /-- It forgets its waits, and one of its dependencies has failed. -/
  | abandon {p : Plan} {f : Failure} : c.phase = .gathered p (some f) →
      Moves site m i c ((m.update (·.release c.name)).enter i (.closing (some f)))
  /-- It has no commands. -/
  | skip : c.phase = .queued [] →
      Moves site m i c ((m.note site (.finished c.name)).enter i (.closing none))
  | acquire {command : Command} {rest : List Command} {m' : Machine σ} : c.phase = .queued (command :: rest) →
      m.takeSlot = some m' → Moves site m i c (m'.enter i (.holding (command :: rest)))
  /-- Its commands have all succeeded. -/
  | exhaust : c.phase = .holding [] → Moves site m i c (m.enter i (.leaving none))
  | launch {command : Command} {rest : List Command} : c.phase = .holding (command :: rest) →
      Moves site m i c ({ m with ran := m.ran ++ [(c.name, command)] }.enter i (.running command rest))
  /-- Its command has ended. -/
  | pass {command : Command} {rest : List Command} {w : σ} : c.phase = .running command rest →
      site.perform c.name command m.world = (none, w) →
      Moves site m i c ({ m with world := w }.enter i (.holding rest))
  | fail {command : Command} {rest : List Command} {f : Failure} {w : σ} : c.phase = .running command rest →
      site.perform c.name command m.world = (some f, w) →
      Moves site m i c ({ m with world := w }.enter i (.leaving (some f)))
  | leave {o : Outcome} : c.phase = .leaving o →
      Moves site m i c ((m.noteIf site (finishNote? c.name o)).giveSlot.enter i (.closing o))
  /-- It publishes its outcome. -/
  | publish {o : Outcome} : c.phase = .closing o →
      Moves site m i c ((m.update (·.settle c.name o)).enter i (.returned o))

theorem moves_of_advance {site : Site σ} {m m' : Machine σ} {i : CallId} {c : Call}
    (h : m.advance site i c.name c.ancestors c.phase = some m') : Moves site m i c m' := by
  cases hp : c.phase with
  | requested =>
    simp only [hp, advance] at h
    split at h <;> cases h
    · next ha => exact .own hp ha
    · next ha => exact .join hp ha
    · next ha => exact .refuse hp ha
  | joined =>
    simp only [hp, advance, Option.map_eq_some_iff] at h
    obtain ⟨o, ho, rfl⟩ := h
    exact .inherit hp ho
  | resolving =>
    simp only [hp, advance] at h
    cases hr : site.resolve m.world c.name with
    | planned p pattern =>
      simp only [hr, Option.some.injEq] at h
      subst h
      split
      · next hd => exact .queue hp hr hd
      · next hd => exact .plan hp hr hd
    | present =>
      simp only [hr, Option.some.injEq] at h
      subst h
      exact .find hp hr
    | missing =>
      simp only [hr, Option.some.injEq] at h
      subst h
      exact .miss hp hr
  | planned p =>
    simp only [hp, advance, Option.some.injEq] at h
    subst h
    exact .record hp
  | recorded p =>
    simp only [hp, advance, Option.some.injEq, foldl_request] at h
    subst h
    exact .spawn hp
  | waiting p calls =>
    simp only [hp, advance, Option.map_eq_some_iff] at h
    obtain ⟨os, hos, rfl⟩ := h
    exact .gather hp hos
  | gathered p o =>
    simp only [hp, advance, Option.some.injEq] at h
    subst h
    cases o with
    | none => exact .proceed hp
    | some f => exact .abandon hp
  | queued commands =>
    cases commands with
    | nil =>
      simp only [hp, advance, Option.some.injEq] at h
      subst h
      exact .skip hp
    | cons command rest =>
      simp only [hp, advance, Option.map_eq_some_iff] at h
      obtain ⟨m', hm, rfl⟩ := h
      exact .acquire hp hm
  | holding commands =>
    cases commands with
    | nil =>
      simp only [hp, advance, Option.some.injEq] at h
      subst h
      exact .exhaust hp
    | cons command rest =>
      simp only [hp, advance, Option.some.injEq] at h
      subst h
      exact .launch hp
  | running command rest =>
    simp only [hp, advance] at h
    split at h <;> cases h
    · next hr => exact .pass hp hr
    · next hr => exact .fail hp hr
  | leaving o =>
    simp only [hp, advance, Option.some.injEq] at h
    subst h
    cases o with
    | none => exact .leave hp
    | some f => exact .leave hp
  | closing o =>
    simp only [hp, advance, Option.some.injEq] at h
    subst h
    exact .publish hp
  | returned o => simp [hp, advance] at h

theorem Moves.advance_eq {site : Site σ} {m m' : Machine σ} {i : CallId} {c : Call}
    (h : Moves site m i c m') : m.advance site i c.name c.ancestors c.phase = some m' := by
  cases h with
  | own hp ha | join hp ha | refuse hp ha => simp [hp, advance, ha]
  | inherit hp ho => simp [hp, advance, ho]
  | plan hp hr hd => simp [hp, advance, hr, hd, noteIf]
  | queue hp hr hd => simp [hp, advance, hr, hd, noteIf]
  | find hp hr => simp [hp, advance, hr, Resolution.note?]
  | miss hp hr => simp [hp, advance, hr, Resolution.note?]
  | spawn hp => simp [hp, advance, foldl_request]
  | gather hp ho => simp [hp, advance, ho]
  | acquire hp hm => simp [hp, advance, hm]
  | pass hp hr | fail hp hr => simp [hp, advance, hr]
  | @leave o hp => cases o <;> simp [hp, advance, noteIf, finishNote?]
  | record hp | proceed hp | abandon hp | skip hp | exhaust hp | launch hp | publish hp => simp [hp, advance]

/-- A call takes a step exactly as `Moves` lists it. -/
theorem step_iff {site : Site σ} {m m' : Machine σ} {i : CallId} :
    m.step site i = some m' ↔ ∃ c, m.calls[i]? = some c ∧ Moves site m i c m' := by
  simp only [step, Option.bind_eq_some_iff]
  constructor
  · rintro ⟨c, hc, h⟩
    exact ⟨c, hc, moves_of_advance h⟩
  · rintro ⟨c, hc, h⟩
    exact ⟨c, hc, h.advance_eq⟩

/-! ## Steps and bounds on the world -/

variable {site : Site σ} {ok : σ → Prop} {m m' : Machine σ}

theorem ok_noteIf (h : site.Keeps ok) (hw : ok m.world) (k : Option Note) : ok (m.noteIf site k).world := by
  cases k with
  | none => exact hw
  | some k => exact h.note k hw

/-- A step leaves the world within bounds that the site keeps. -/
theorem ok_of_step (h : site.Keeps ok) (hw : ok m.world) {i : CallId} (hs : m.step site i = some m') :
    ok m'.world := by
  obtain ⟨c, -, hm⟩ := step_iff.1 hs
  cases hm with
  | join | find | skip => exact h.note _ hw
  | plan | queue | leave => exact ok_noteIf h hw _
  | acquire _ ht =>
    obtain ⟨free, rfl, -⟩ := eq_of_takeSlot ht
    exact hw
  | @pass command _ w _ hr | @fail command _ _ w _ hr =>
    have hperf := h.perform c.name command hw
    rwa [hr] at hperf
  | own | refuse | inherit | miss | record | spawn | gather | proceed | abandon | exhaust | launch
  | publish => exact hw

/-- Calls take steps, any of them at any time. -/
def Steps (site : Site σ) : Machine σ → Machine σ → Prop :=
  Relation.ReflTransGen fun m m' => ∃ i, m.step site i = some m'

theorem steps_of_play {schedule : List CallId} (hp : m.play site schedule = some m') : Steps site m m' := by
  induction schedule generalizing m with
  | nil =>
    cases hp
    exact .refl
  | cons i schedule ih =>
    simp only [Machine.play, Option.bind_eq_some_iff] at hp
    obtain ⟨m₁, hs, hp⟩ := hp
    exact .head ⟨i, hs⟩ (ih hp)

/-- Steps lead from a machine that can come about to others. -/
theorem Reachable.steps {jobs : Option Int} (hk : site.Keeps ok) (h : Reachable site ok jobs m)
    (hp : Steps site m m') : Reachable site ok jobs m' := by
  induction hp with
  | refl => exact h
  | tail _ hs ih =>
    obtain ⟨i, hs⟩ := hs
    exact ih.next (.step hs) (ok_of_step hk ih.ok_world hs)

end Buildfile.Build.Machine
