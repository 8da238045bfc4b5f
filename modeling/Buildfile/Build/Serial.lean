import Buildfile.Build.Site
/-!
# Building one name after another

The serial build settles every dependency before it starts the next, depth first and in the order
in which they are declared, and runs the commands of a target once all its dependencies succeeded.
A failure does not keep the other dependencies from being built.

A pattern can ask for ever new names, so a visit is given a bound on its depth and answers nothing
if that bound is too small; `visit_mono` says that a larger bound gives the same answer.
-/

namespace Buildfile.Build

variable {σ : Type}

/-- The state of a build: its ledger, the commands that were run for each target in order, and the
state of the site. -/
structure Session (σ : Type) where
  ledger : Ledger := {}
  ran : List (Name × Command) := []
  world : σ
  deriving Repr

namespace Session

/-- The session after a note. -/
def note (site : Site σ) (s : Session σ) (n : Note) : Session σ := { s with world := site.note n s.world }

/-- The session with its ledger changed. -/
def update (s : Session σ) (f : Ledger → Ledger) : Session σ := { s with ledger := f s.ledger }

theorem ledger_update (s : Session σ) (f : Ledger → Ledger) : (s.update f).ledger = f s.ledger := rfl

theorem ledger_elim_note (site : Site σ) (s : Session σ) (k : Option Note) :
    (k.elim s (s.note site)).ledger = s.ledger := by
  cases k <;> rfl

/-- Runs commands for `n` until one fails. -/
def run (site : Site σ) (n : Name) : List Command → Session σ → Outcome × Session σ
  | [], s => (none, s)
  | c :: cs, s =>
    match site.perform n c s.world with
    | (none, w) => run site n cs { s with ran := s.ran ++ [(n, c)], world := w }
    | (some f, w) => (some f, { s with ran := s.ran ++ [(n, c)], world := w })

/-- A way of building one name: its outcome and the session afterwards, if it comes to an end. -/
abbrev Visit (σ : Type) := Name → Session σ → Option (Outcome × Session σ)

/-- Visits names in order, each in the session that the one before it left. -/
def visitAll (visit : Visit σ) : List Name → Session σ → Option (List (Name × Outcome) × Session σ)
  | [], s => some ([], s)
  | n :: ns, s =>
    (visit n s).bind fun r => (visitAll visit ns r.2).map fun rs => ((n, r.1) :: rs.1, rs.2)

/-- The end of a plan, once its dependencies ended with outcome `o`: its commands, if all succeeded. -/
def conclude (site : Site σ) (n : Name) (commands : List Command) (o : Outcome) (s : Session σ) :
    Outcome × Session σ :=
  match o with
  | some f => (some f, s)
  | none =>
    match s.run site n commands with
    | (none, s) => (none, s.note site (.finished n))
    | (some f, s) => (some f, s)

/-- Builds what a plan asks for: its dependencies, then its commands. -/
def carryOut (site : Site σ) (visit : Visit σ) (n : Name) (p : Plan) (s : Session σ) :
    Option (Outcome × Session σ) :=
  let s := if p.dependencies = [] then s else s.update (·.await n p.dependencies)
  (visitAll visit p.dependencies s).map fun r =>
    (r.2.update (·.release n)).conclude site n p.commands (blame n r.1)

/-- A plan that was carried out: its dependencies were visited and its commands concluded what came of them. Recording
its waits has changed nothing else. -/
theorem of_carryOut {site : Site σ} {visit : Visit σ} {n : Name} {p : Plan} {s s' : Session σ} {o : Outcome}
    (h : carryOut site visit n p s = some (o, s')) : ∃ (t mid : Session σ) (os : List (Name × Outcome)),
      t.world = s.world ∧ t.ledger.records = s.ledger.records ∧ t.ran = s.ran ∧
      visitAll visit p.dependencies t = some (os, mid) ∧
      (mid.update (·.release n)).conclude site n p.commands (blame n os) = (o, s') := by
  obtain ⟨⟨os, mid⟩, hall, hend⟩ := Option.map_eq_some_iff.1 h
  by_cases hd : p.dependencies = []
  · rw [if_pos hd] at hall
    exact ⟨s, mid, os, rfl, rfl, rfl, hall, hend⟩
  · rw [if_neg hd] at hall
    exact ⟨s.update (·.await n p.dependencies), mid, os, rfl, rfl, rfl, hall, hend⟩

/-- Resolves a name that nobody has requested before, and builds it. -/
def build (site : Site σ) (visit : Visit σ) (n : Name) (s : Session σ) : Option (Outcome × Session σ) :=
  let resolution := site.resolve s.world n
  let s := (resolution.note? n).elim s (s.note site)
  match resolution with
  | .planned p _ => carryOut site visit n p s
  | .present => some (none, s)
  | .missing => some (some (.error (.unknownTarget n)), s)

/-- Builds `n`, requested while building the last of `ancestors`. It answers nothing if the depth
does not suffice, or if the request would wait for a name that nobody is going to settle. -/
def visit (site : Site σ) : (depth : Nat) → (ancestors : List Name) → Visit σ
  | 0, _, _, _ => none
  | depth + 1, ancestors, n, s =>
    match s.ledger.admission n ancestors with
    | .refuse e => some (some (.error e), s)
    | .join => (s.ledger.outcome? n).map fun o => (o, s.note site (.joining n))
    | .own =>
      (build site (visit site depth (ancestors ++ [n])) n (s.update (·.enroll n))).map fun r =>
        (r.1, r.2.update (·.settle n r.1))

/-- Builds a name that is requested from outside. -/
def execute (site : Site σ) (depth : Nat) (n : Name) (s : Session σ) : Option (Outcome × Session σ) :=
  visit site depth [] n s

/-! ## The bound on the depth -/

/-- `f` answers wherever `g` does, and the same. -/
def Extends (f g : Visit σ) : Prop := ∀ n s r, g n s = some r → f n s = some r

theorem visitAll_mono {f g : Visit σ} (h : Extends f g) {ns : List Name} {s : Session σ}
    {r : List (Name × Outcome) × Session σ} (hr : visitAll g ns s = some r) : visitAll f ns s = some r := by
  induction ns generalizing s r with
  | nil => exact hr
  | cons n ns ih =>
    simp only [visitAll, Option.bind_eq_some_iff, Option.map_eq_some_iff] at hr ⊢
    obtain ⟨a, ha, b, hb, hr⟩ := hr
    exact ⟨a, h _ _ _ ha, b, ih hb, hr⟩

theorem build_mono {site : Site σ} {f g : Visit σ} (h : Extends f g) {n : Name} {s : Session σ}
    {r : Outcome × Session σ} (hr : build site g n s = some r) : build site f n s = some r := by
  simp only [build] at hr ⊢
  split at hr
  · simp only [carryOut, Option.map_eq_some_iff] at hr ⊢
    obtain ⟨a, ha, hr⟩ := hr
    exact ⟨a, visitAll_mono h ha, hr⟩
  · exact hr
  · exact hr

/-- A visit that answers within some depth answers the same within one more. -/
theorem visit_mono (site : Site σ) (depth : Nat) (ancestors : List Name) :
    Extends (visit site (depth + 1) ancestors) (visit site depth ancestors) := by
  induction depth generalizing ancestors with
  | zero => intro n s r h; simp [visit] at h
  | succ depth ih =>
    intro n s r h
    rw [visit] at h ⊢
    cases ha : s.ledger.admission n ancestors with
    | refuse e => simpa [ha] using h
    | join => simpa [ha] using h
    | own =>
      simp only [ha, Option.map_eq_some_iff] at h ⊢
      obtain ⟨a, hb, h⟩ := h
      exact ⟨a, build_mono (ih _) hb, h⟩

end Session

end Buildfile.Build
