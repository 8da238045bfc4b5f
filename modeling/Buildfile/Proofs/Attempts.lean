import Buildfile.Proofs.Crashes
/-!
# The commands of a rule

The commands of a rule are run one after another, up to the first that fails (`Runner.Attempts`). In which order their
lines are shown and their programs started is told on a host that marks each start in place of what the program writes
(`Host.marking`), and otherwise does what the host does. A command that is attempted shows its line unless it is silent,
and after that starts its program, if its line can be cut and holds an argument (`Runner.trail`).
-/

namespace Buildfile

open Build CommandLine

variable {τ : Type} {h : Host τ} {r : Runner} {c : Command} {n : Name} {target : Option Name}

/-- The host takes every request that is acceptable. It starts the program, or gives a reason why it does not. -/
def Host.Takes (h : Host τ) : Prop := ∀ q s, q.Acceptable → ∀ x, (h.spawn q s).ending ≠ .error (.invalid x)

theorem Host.Strict.takes (hstrict : h.Strict) : h.Takes := fun q s hq x hx => (hstrict q s).1 ⟨x, hx⟩ hq

/-- So does the system that the library brings along. -/
theorem Workspace.host_takes : Workspace.host.Takes := Workspace.host_strict.takes

/-- The host with a mark for the start of each program in place of what the program writes. -/
def Host.marking (h : Host τ) (mark : Request → Write) : Host τ :=
  { h with spawn := fun q s => { h.spawn q s with output := [mark q] } }

namespace Runner

/-! ## One command -/

/-- The start that a command asks for. There is none if its line cannot be cut or holds no argument. -/
def request? (r : Runner) (c : Command) : Option Request :=
  match r.quoting.split c.text with
  | .ok (a :: args) => some (r.request (a :: args))
  | _ => none

/-- The line of a command, unless it is silent, and behind it the mark of its start. -/
def trail (r : Runner) (mark : Request → Write) (c : Command) : List Write :=
  (if c.silent then [] else [.out c.text]) ++ ((r.request? c).map mark).toList

theorem run_marking (mark : Request → Write) (s : τ) :
    r.run (h.marking mark) c target s = { r.run h c target s with output := r.trail mark c } := by
  have hshown : r.shown c = if c.silent then [] else [.out c.text] := rfl
  unfold run trail request?
  rw [hshown]
  rcases r.quoting.split c.text with f | ⟨_ | ⟨a, args⟩⟩
  · simp
  · simp
  · rfl

theorem run_ne_crash (htakes : h.Takes) (hr : (r.request []).Acceptable) (hnul : '\x00' ∉ c.text) (s : τ) (x : Crash) :
    (r.run h c target s).outcome ≠ some (.crash x) := by
  intro hcrash
  unfold run at hcrash
  split at hcrash
  · cases hcrash
  · cases hcrash
  · next args _ hs =>
    have hacceptable : (r.request args).Acceptable := (acceptable_iff_of_split hr hs).2 hnul
    exact htakes _ s hacceptable x (outcome_eq_crash_iff.1 hcrash)

/-! ## One command after another -/

/-- The commands are run one after another and leave the host in this state. All but the last have succeeded, and this
is how the last one has ended. -/
inductive Attempts (r : Runner) (h : Host τ) (n : Name) : List Command → τ → Outcome → τ → Prop
  | nil {s : τ} : Attempts r h n [] s none s
  | pass {c : Command} {cs : List Command} {s s' : τ} {o : Outcome} : (r.run h c (some n) s).outcome = none →
      Attempts r h n cs (r.run h c (some n) s).state o s' → Attempts r h n (c :: cs) s o s'
  | fail {c : Command} {s : τ} {f : Failure} : (r.run h c (some n) s).outcome = some f →
      Attempts r h n [c] s (some f) (r.run h c (some n) s).state

theorem Attempts.exists_last {cs : List Command} {s s' : τ} {f : Failure} (ha : r.Attempts h n cs s (some f) s') :
    ∃ passed c t, cs = passed ++ [c] ∧ r.Attempts h n passed s none t ∧
      (r.run h c (some n) t).outcome = some f := by
  generalize ho : some f = o at ha
  induction ha with
  | nil => cases ho
  | @pass c cs s s' o hc _ ih =>
    obtain ⟨passed, last, t, rfl, hpassed, hlast⟩ := ih ho
    exact ⟨c :: passed, last, t, rfl, .pass hc hpassed, hlast⟩
  | @fail c s f' hc =>
    cases ho
    exact ⟨[], c, s, rfl, .nil, hc⟩

/-! ## The commands of a rule -/

/-- The session after a command of a name was run in it. -/
def tried (r : Runner) (h : Host τ) (n : Name) (c : Command) (s : Session (Scene τ)) : Session (Scene τ) :=
  let ran := r.run h c (some n) s.world.state
  { s with ran := s.ran ++ [(n, c)], world := { output := s.world.output ++ ran.output, state := ran.state } }

section Rule
variable {b : Rulebook} {cs rest : List Command} {s : Session (Scene τ)}

theorem run_cons_of_eq_none (hc : (r.run h c (some n) s.world.state).outcome = none) :
    s.run (site h r b) n (c :: cs) = (r.tried h n c s).run (site h r b) n cs := by
  rw [Session.run, show (site h r b).perform n c s.world = (none, (r.tried h n c s).world) from Prod.ext hc rfl]
  rfl

theorem run_cons_of_eq_some {f : Failure} (hc : (r.run h c (some n) s.world.state).outcome = some f) :
    s.run (site h r b) n (c :: cs) = (some f, r.tried h n c s) := by
  rw [Session.run, show (site h r b).perform n c s.world = (some f, (r.tried h n c s).world) from Prod.ext hc rfl]
  rfl

/-- A rule runs its commands up to the first that fails. -/
theorem exists_attempts (b : Rulebook) (commands : List Command) (s : Session (Scene τ)) :
    ∃ attempted rest o s', commands = attempted ++ rest ∧ s.run (site h r b) n commands = (o, s') ∧
      r.Attempts h n attempted s.world.state o s'.world.state ∧ (o = none → rest = []) ∧
      s'.ran = s.ran ++ attempted.map (n, ·) := by
  induction commands generalizing s with
  | nil => exact ⟨[], [], none, s, rfl, rfl, .nil, fun _ => rfl, by simp⟩
  | cons c commands ih =>
    cases hc : (r.run h c (some n) s.world.state).outcome with
    | none =>
      obtain ⟨attempted, rest, o, s', rfl, hrun, ha, hrest, hran⟩ := ih (r.tried h n c s)
      refine ⟨c :: attempted, rest, o, s', rfl, ?_, .pass hc ha, hrest, ?_⟩
      · rw [run_cons_of_eq_none hc, hrun]
      · simp [hran, tried]
    | some f => exact ⟨[c], commands, some f, r.tried h n c s, rfl, run_cons_of_eq_some hc, .fail hc, nofun, rfl⟩

/-- On a host that marks the starts, a rule writes the trails of the commands that are attempted. -/
theorem Attempts.output_marking {t t' : τ} {o : Outcome} (ha : r.Attempts h n cs t o t') (hrest : o = none → rest = [])
    (hs : s.world.state = t) (mark : Request → Write) :
    (s.run (site (h.marking mark) r b) n (cs ++ rest)).2.world.output =
      s.world.output ++ cs.flatMap (r.trail mark) := by
  induction ha generalizing s with
  | nil =>
    rw [hrest rfl]
    simp [Session.run]
  | @pass c cs t t' o hc _ ih =>
    subst hs
    have hmarked : (r.run (h.marking mark) c (some n) s.world.state).outcome = none := by rw [run_marking, hc]
    rw [List.cons_append, run_cons_of_eq_none hmarked, ih hrest (by simp [tried, run_marking])]
    simp [tried, run_marking]
  | @fail c t f hc =>
    subst hs
    have hmarked : (r.run (h.marking mark) c (some n) s.world.state).outcome = some f := by rw [run_marking, hc]
    rw [List.cons_append, run_cons_of_eq_some hmarked]
    simp [tried, run_marking]

end Rule

/-- Let a host take what is acceptable, and let no command of a rule hold the character U+0000. The rule runs its
commands one after another, up to the first that fails or to the end.

What is written on a host that marks the starts is, for each command that is attempted and in their order, its line
unless it is silent, and then the mark of its program if its line can be cut and holds an argument.

If the last of these commands has failed, it has done so with an error that names its line and the target, and either
a status other than zero or a reason. -/
theorem commands_attempted (htakes : h.Takes) (hr : (r.request []).Acceptable) {commands : List Command}
    (hnul : ∀ c ∈ commands, '\x00' ∉ c.text) (b : Rulebook) (n : Name) (s : Session (Scene τ)) :
    ∃ attempted rest o s', commands = attempted ++ rest ∧ s.run (site h r b) n commands = (o, s') ∧
      r.Attempts h n attempted s.world.state o s'.world.state ∧ (o = none → rest = []) ∧
      s'.ran = s.ran ++ attempted.map (n, ·) ∧
      (∀ mark : Request → Write, (s.run (site (h.marking mark) r b) n commands).2.world.output =
        s.world.output ++ attempted.flatMap fun c =>
          (if c.silent then [] else [.out c.text]) ++ ((r.request? c).map mark).toList) ∧
      ∀ f, o = some f → ∃ passed c status reason, attempted = passed ++ [c] ∧
        f = .error (.commandFailed c.text (some n) status reason) ∧
        ((∃ k, status = some k ∧ k ≠ 0 ∧ reason = none) ∨ (status = none ∧ ∃ t, reason = some t)) := by
  obtain ⟨attempted, rest, o, s', rfl, hrun, ha, hrest, hran⟩ := exists_attempts b commands s
  refine ⟨attempted, rest, o, s', rfl, hrun, ha, hrest, hran, ha.output_marking hrest rfl, ?_⟩
  rintro f rfl
  obtain ⟨passed, c, t, rfl, -, hlast⟩ := ha.exists_last
  cases f with
  | error e =>
    obtain ⟨status, reason, rfl, hone⟩ := run_error hlast
    exact ⟨passed, c, status, reason, rfl, rfl, hone⟩
  | crash x => exact absurd hlast (run_ne_crash htakes hr (hnul c (by simp)) t x)

/-- Two programs: `true` ends with status zero and `false` with one. The state counts the starts. -/
def twoPrograms : Host Nat where
  kind _ _ := .absent
  read _ _ := .ok []
  enter _ s := .ok s
  spawn q s :=
    { state := s + 1
      ending :=
        if q.arguments.head? = some (lit "true") then .ok 0
        else if q.arguments.head? = some (lit "false") then .ok 1
        else .error (.system (lit "[Errno 2] No such file or directory")) }

theorem twoPrograms_takes : twoPrograms.Takes := by
  intro q s _ x
  dsimp only [twoPrograms]
  split
  · nofun
  · split <;> nofun

/-- The second command starts nothing, the third is not shown, the fourth is shown and cannot be cut, and the last is
not attempted. -/
theorem commands_attempted_unclosed :
    let r : Runner := { quoting := .shell }
    let s : Session (Scene Nat) := { world := { state := 0 } }
    let mark : Request → Write := fun q => .err (List.intercalate (lit "|") q.arguments)
    let commands : List Command := [{ text := lit "true 'a b'" }, { text := lit " ", silent := true },
      { text := lit "true c", silent := true }, { text := lit "true 'oops" }, { text := lit "false" }]
    twoPrograms.Takes ∧ (r.request []).Acceptable ∧ (∀ c ∈ commands, '\x00' ∉ c.text) ∧
      (s.run (site twoPrograms r {}) (lit "all") commands).1 = some (.error
        (.commandFailed (lit "true 'oops") (some (lit "all")) none (some (lit "No closing quotation")))) ∧
      (s.run (site (twoPrograms.marking mark) r {}) (lit "all") commands).2.world.output =
        [.out (lit "true 'a b'"), .err (lit "true|a b"), .err (lit "true|c"), .out (lit "true 'oops")] := by
  intro r s mark commands
  have hr : (r.request []).Acceptable := request_acceptable rfl rfl
  have hnul : ∀ c ∈ commands, '\x00' ∉ c.text := by decide +kernel
  obtain ⟨attempted, -, o, s', -, hrun, -, -, hran, hmarked, -⟩ :=
    commands_attempted twoPrograms_takes hr hnul {} (lit "all") s
  have hstopped : (s.run (site twoPrograms r {}) (lit "all") commands).2.ran = (commands.take 4).map (lit "all", ·) := by
    decide +kernel
  have hattempted : attempted = commands.take 4 := by
    rw [hrun] at hstopped
    exact List.map_injective_iff.2 (Prod.mk_right_injective _) (hran.symm.trans hstopped)
  refine ⟨twoPrograms_takes, hr, hnul, ?_, ?_⟩
  · decide +kernel
  · rw [hmarked mark, hattempted]
    decide +kernel

end Runner

end Buildfile
