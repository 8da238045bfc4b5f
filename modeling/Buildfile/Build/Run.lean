import Buildfile.Build.Machine
/-!
# Runs of the machine

A machine is opened with a bound on its jobs. After that anything may happen in any order: a call
takes a step, a name is requested from outside, or the world changes by itself, as when a rule is
added or a file is removed. `Reachable` collects the machines that can come about in this way while
the world stays within bounds, so a statement about reachable machines holds for every
interleaving. `play` follows one schedule, the list of the calls that take the steps.
-/

namespace Buildfile.Build

variable {σ : Type}

/-- The commands among `ran` that were started for `n`, in order. -/
def commandsOf (ran : List (Name × Command)) (n : Name) : List Command := (ran.filter (·.1 = n)).map (·.2)

theorem commandsOf_append (ran ran' : List (Name × Command)) (n : Name) :
    commandsOf (ran ++ ran') n = commandsOf ran n ++ commandsOf ran' n := by
  simp [commandsOf]

theorem commandsOf_append_self (ran : List (Name × Command)) (n : Name) (command : Command) :
    commandsOf (ran ++ [(n, command)]) n = commandsOf ran n ++ [command] := by
  simp [commandsOf]

theorem commandsOf_append_other (ran : List (Name × Command)) {n k : Name} (h : k ≠ n) (command : Command) :
    commandsOf (ran ++ [(n, command)]) k = commandsOf ran k := by
  simp [commandsOf, h.symm]

/-- The site of rules, files and outcomes of commands that never change. -/
def Site.fixed (b : Rulebook) (isFile : Name → Bool) (outcome : Name → Command → Outcome) : Site Unit where
  resolve _ n := Build.resolve b isFile n
  perform n c _ := (outcome n c, ())
  note _ _ := ()

/-- What is done on the site leaves its state within bounds. -/
structure Site.Keeps (site : Site σ) (ok : σ → Prop) : Prop where
  perform {w : σ} (n : Name) (c : Command) : ok w → ok (site.perform n c w).2
  note {w : σ} (k : Note) : ok w → ok (site.note k w)

/-- In this state the site resolves names by `b`, whatever files there are. -/
def Site.Follows (site : Site σ) (b : Rulebook) (w : σ) : Prop :=
  ∃ isFile, ∀ n, site.resolve w n = Build.resolve b isFile n

theorem Site.follows_fixed (b : Rulebook) (isFile : Name → Bool) (outcome : Name → Command → Outcome)
    (w : Unit) : (Site.fixed b isFile outcome).Follows b w := ⟨isFile, fun _ => rfl⟩

namespace Machine

/-- The machine of a new build: nothing is requested yet and all job slots are free. -/
def new (jobs : Option Int) (w : σ) : Except Crash (Machine σ) :=
  match jobs with
  | none => .ok { world := w }
  | some k => (slotsFor k).map fun free => { slots := some free, world := w }

/-- A new machine has an empty ledger and no calls, and as many free slots as the bound says. -/
theorem eq_of_new {jobs : Option Int} {w : σ} {m : Machine σ} (h : new jobs w = .ok m) :
    ∃ free, m = { slots := free, world := w } ∧
      (jobs = none ∧ free = none ∨ ∃ k : Nat, jobs = some (k + 1 : Int) ∧ free = some (k + 1)) := by
  unfold new at h
  split at h
  · cases h
    exact ⟨none, rfl, .inl ⟨rfl, rfl⟩⟩
  · next k =>
    unfold slotsFor at h
    split at h
    · cases h
    · next hk =>
      cases h
      refine ⟨some k.toNat, rfl, .inr ⟨k.toNat - 1, ?_, ?_⟩⟩
      · congr 1; omega
      · congr 1; omega

/-- The machine may go from `m` to `m'`: a call takes a step, a name is requested from outside, or
the world changes by itself. -/
inductive Next (site : Site σ) (m : Machine σ) : Machine σ → Prop
  | step {i : CallId} {m' : Machine σ} : m.step site i = some m' → Next site m m'
  | start (n : Name) : Next site m (m.start n)
  | turn (w : σ) : Next site m { m with world := w }

/-- The machine can come about in a build with this bound on its jobs whose world stays within `ok`. -/
inductive Reachable (site : Site σ) (ok : σ → Prop) (jobs : Option Int) : Machine σ → Prop
  | new {w : σ} {m : Machine σ} : Machine.new jobs w = .ok m → ok w → Reachable site ok jobs m
  | next {m m' : Machine σ} : Reachable site ok jobs m → m.Next site m' → ok m'.world →
      Reachable site ok jobs m'

/-- The machine after the steps of a schedule; nothing if one of them cannot be taken. -/
def play (site : Site σ) : (schedule : List CallId) → Machine σ → Option (Machine σ)
  | [], m => some m
  | i :: schedule, m => (m.step site i).bind (play site schedule)

theorem Reachable.mono {site : Site σ} {ok ok' : σ → Prop} {jobs : Option Int} {m : Machine σ}
    (hok : ∀ w, ok w → ok' w) (h : Reachable site ok jobs m) : Reachable site ok' jobs m := by
  induction h with
  | new hm hw => exact .new hm (hok _ hw)
  | next _ hn hw ih => exact .next ih hn (hok _ hw)

theorem Reachable.ok_world {site : Site σ} {ok : σ → Prop} {jobs : Option Int} {m : Machine σ}
    (h : Reachable site ok jobs m) : ok m.world := by
  cases h with
  | new hm hw =>
    obtain ⟨free, rfl, -⟩ := eq_of_new hm
    exact hw
  | next _ _ hw => exact hw

/-- The names that were requested from outside. -/
def roots (m : Machine σ) : List Name := (m.calls.filter (·.ancestors = [])).map (·.name)

theorem mem_roots {m : Machine σ} {n : Name} :
    n ∈ m.roots ↔ ∃ (i : CallId) (c : Call), m.calls[i]? = some c ∧ c.ancestors = [] ∧ c.name = n := by
  simp only [roots, List.mem_map, List.mem_filter, decide_eq_true_eq]
  constructor
  · rintro ⟨c, ⟨hc, ha⟩, hn⟩
    obtain ⟨i, hi⟩ := List.getElem?_of_mem hc
    exact ⟨i, c, hi, ha, hn⟩
  · rintro ⟨i, c, hi, ha, hn⟩
    exact ⟨c, ⟨List.mem_of_getElem? hi, ha⟩, hn⟩

end Machine

end Buildfile.Build
