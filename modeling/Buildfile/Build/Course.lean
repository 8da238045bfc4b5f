import Buildfile.Build.Run
/-!
# Courses of events

A course is a sequence of machines from a new one on, each of which may come about from the one
before. Every machine that can come about lies on a course (`Reachable.exists_course`), and a course
also says what came before what: `Does` names what a step of a call amounts to, and `Happened`
collects what was done before a moment of a course.
-/

namespace Buildfile.Build

variable {σ : Type}

/-- What is done in a step, where others can tell. -/
inductive Event where
  /-- Call `i`, which asks for `n`, is refused. -/
  | refuse (i : CallId) (n : Name) (e : BuildError)
  /-- The owner of `n` looks up how it is built. -/
  | lookUp (n : Name) (r : Resolution)
  /-- A command of `n` is started. -/
  | start (n : Name) (command : Command)
  /-- The last of these commands, which were started for `n`, ends. -/
  | finish (n : Name) (started : List Command) (o : Outcome)
  /-- The owner of `n` publishes its outcome. -/
  | publish (n : Name) (o : Outcome)
  deriving DecidableEq, Repr, Inhabited

namespace Machine

/-- What call `i`, which stands at `c`, is about to do. -/
def event? (site : Site σ) (m : Machine σ) (i : CallId) (c : Call) : Option Event :=
  match c.phase with
  | .requested =>
    match m.ledger.admission c.name c.ancestors with
    | .refuse e => some (.refuse i c.name e)
    | _ => none
  | .resolving => some (.lookUp c.name (site.resolve m.world c.name))
  | .holding (command :: _) => some (.start c.name command)
  | .running command _ =>
    some (.finish c.name (commandsOf m.ran c.name) (site.perform c.name command m.world).1)
  | .closing o => some (.publish c.name o)
  | _ => none

/-- A call does this in a step from `m` to `m'`. -/
def Does (site : Site σ) (m : Machine σ) (e : Event) (m' : Machine σ) : Prop :=
  ∃ (i : CallId) (c : Call), m.calls[i]? = some c ∧ m.event? site i c = some e ∧ m.step site i = some m'

/-- What may be done to a machine in one moment. -/
inductive Deed (σ : Type) where
  | step (i : CallId)
  | start (n : Name)
  | turn (w : σ)

/-- The machine after a deed; a step that cannot be taken leaves it as it is. -/
def undergo (site : Site σ) (m : Machine σ) : Deed σ → Machine σ
  | .step i => (m.step site i).getD m
  | .start n => m.start n
  | .turn w => { m with world := w }

/-- The machines that come about by these deeds, the last of them for ever. -/
def after (site : Site σ) (m : Machine σ) (deeds : List (Deed σ)) (k : Nat) : Machine σ :=
  (deeds.take k).foldl (undergo site) m

theorem next_undergo (site : Site σ) (m : Machine σ) (d : Deed σ) : m.Next site (m.undergo site d) := by
  cases d with
  | step i =>
    cases h : m.step site i with
    | none => simpa [undergo, h] using Next.turn m.world
    | some m' => simpa [undergo, h] using Next.step h
  | start n => exact .start n
  | turn w => exact .turn w

theorem next_after (site : Site σ) (m : Machine σ) (deeds : List (Deed σ)) (k : Nat) :
    (m.after site deeds k).Next site (m.after site deeds (k + 1)) := by
  unfold after
  rw [List.take_add_one]
  cases deeds[k]? with
  | none => simpa using Next.turn _
  | some d => simpa using next_undergo site _ d

/-- A step among the deeds does what its call is about to do. -/
theorem does_after {site : Site σ} {m : Machine σ} {deeds : List (Deed σ)} {k : Nat} {i : CallId} {e : Event}
    (hd : deeds[k]? = some (.step i)) (hs : ((m.after site deeds k).step site i).isSome = true)
    (he : ((m.after site deeds k).calls[i]?.bind fun c => (m.after site deeds k).event? site i c) = some e) :
    (m.after site deeds k).Does site e (m.after site deeds (k + 1)) := by
  obtain ⟨c, hc, he⟩ := Option.bind_eq_some_iff.1 he
  obtain ⟨m', hs⟩ := Option.isSome_iff_exists.1 hs
  refine ⟨i, c, hc, he, ?_⟩
  unfold after at hs ⊢
  rw [List.take_add_one, hd, Option.toList_some, List.foldl_append, List.foldl_cons, List.foldl_nil, undergo, hs]
  rfl

end Machine

/-- Machines one after the other, each of which comes about from the one before, while the world
stays within `ok`. -/
structure Course (site : Site σ) (ok : σ → Prop) (jobs : Option Int) (m : Nat → Machine σ) : Prop where
  opens : ∃ w, Machine.new jobs w = .ok (m 0)
  next (k : Nat) : (m k).Next site (m (k + 1))
  within (k : Nat) : ok (m k).world

/-- This was done before moment `k` of a course. -/
def Happened (site : Site σ) (m : Nat → Machine σ) (k : Nat) (e : Event) : Prop :=
  ∃ j < k, (m j).Does site e (m (j + 1))

namespace Course

open Machine

variable {site : Site σ} {ok : σ → Prop} {jobs : Option Int} {m : Nat → Machine σ}

/-- A course opens with a machine that was asked for nothing yet. -/
theorem zero_eq (h : Course site ok jobs m) : ∃ free w, m 0 = { slots := free, world := w } := by
  obtain ⟨w, hw⟩ := h.opens
  obtain ⟨free, hm, -⟩ := eq_of_new hw
  exact ⟨free, w, hm⟩

/-- Every machine of a course can come about. -/
theorem reachable (h : Course site ok jobs m) (k : Nat) : Reachable site ok jobs (m k) := by
  induction k with
  | zero =>
    obtain ⟨w, hw⟩ := h.opens
    have hok := h.within 0
    obtain ⟨free, hm, -⟩ := eq_of_new hw
    rw [hm] at hok
    exact .new hw hok
  | succ k ih => exact ih.next (h.next k) (h.within (k + 1))

theorem mono (h : Course site ok jobs m) {ok' : σ → Prop} (hok : ∀ w, ok w → ok' w) : Course site ok' jobs m :=
  ⟨h.opens, h.next, fun k => hok _ (h.within k)⟩

/-- What the machines of a course keep from one to the next they keep for good. -/
theorem lasting (h : Course site ok jobs m) {P : Machine σ → Prop}
    (hP : ∀ k, (m k).Next site (m (k + 1)) → P (m k) → P (m (k + 1))) {k l : Nat} (hkl : k ≤ l)
    (hk : P (m k)) : P (m l) := by
  induction hkl with
  | refl => exact hk
  | step _ ih => exact hP _ (h.next _) ih

/-- Deeds make a course. -/
theorem of_deeds {w : σ} {m₀ : Machine σ} (hnew : Machine.new jobs w = .ok m₀) (deeds : List (Deed σ))
    (hok : ∀ k, ok (m₀.after site deeds k).world) : Course site ok jobs (m₀.after site deeds) where
  opens := ⟨w, hnew⟩
  next := next_after site m₀ deeds
  within := hok

end Course

namespace Machine

variable {site : Site σ} {ok : σ → Prop} {jobs : Option Int} {m : Machine σ}

/-- Every machine that can come about lies on a course. -/
theorem Reachable.exists_course (h : Reachable site ok jobs m) :
    ∃ ms k, Course site ok jobs ms ∧ ms k = m := by
  induction h with
  | @new w m hnew hw =>
    obtain ⟨free, hm, -⟩ := eq_of_new hnew
    exact ⟨fun _ => m, 0, ⟨⟨w, hnew⟩, fun _ => .turn m.world, fun _ => by rw [hm]; exact hw⟩, rfl⟩
  | @next m m' _ hn hw ih =>
    obtain ⟨ms, k, hms, rfl⟩ := ih
    -- the course goes on to the new machine and stays there
    refine ⟨fun j => if j ≤ k then ms j else m', k + 1, ⟨?_, fun j => ?_, fun j => ?_⟩, ?_⟩
    · simpa using hms.opens
    · rcases Nat.lt_trichotomy j k with hj | rfl | hj
      · have hle : j ≤ k := Nat.le_of_lt hj
        have hle' : j + 1 ≤ k := hj
        simpa [hle, hle'] using hms.next j
      · simpa [Nat.not_succ_le_self] using hn
      · have hj' : ¬ j ≤ k := by omega
        have hj'' : ¬ j + 1 ≤ k := by omega
        simpa [hj', hj''] using Next.turn m'.world
    · by_cases hj : j ≤ k
      · simpa [hj] using hms.within j
      · simpa [hj] using hw
    · exact if_neg (Nat.not_succ_le_self k)

end Machine

end Buildfile.Build
