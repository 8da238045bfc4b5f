import Buildfile.CommandLine.Program
/-!
# Builds seen from one side

A site may keep more of what happens than another one. If forgetting the rest takes each of its operations to that of
the other site, it takes whole builds there too (`Session.execute_map`): the other site lives through the same build.

A recording host is of that kind. It keeps a list of the programs that it was asked to start, and apart from that list
the program does on it what it does on the host itself (`run_recording`).
-/

namespace Buildfile

variable {σ σ' τ : Type}

namespace Build

/-- `f` takes whatever is done at one site to the same at the other. -/
structure Site.Projects (f : σ → σ') (site : Site σ) (site' : Site σ') : Prop where
  resolve (w : σ) (n : Name) : site'.resolve (f w) n = site.resolve w n
  perform (n : Name) (c : Command) (w : σ) :
    site'.perform n c (f w) = ((site.perform n c w).1, f (site.perform n c w).2)
  note (k : Note) (w : σ) : site'.note k (f w) = f (site.note k w)

namespace Session

variable {f : σ → σ'} {site : Site σ} {site' : Site σ'} {visit : Visit σ} {visit' : Visit σ'} {n : Name}
  {s : Session σ}

/-- The session with another state of the site. -/
def map (f : σ → σ') (s : Session σ) : Session σ' := { ledger := s.ledger, ran := s.ran, world := f s.world }

/-- An outcome, and a session with another state of the site. -/
def mapEnd (f : σ → σ') (r : Outcome × Session σ) : Outcome × Session σ' := (r.1, r.2.map f)

/-- `f` takes a way of building names to another one. -/
def Carries (f : σ → σ') (visit : Visit σ) (visit' : Visit σ') : Prop :=
  ∀ n s, visit' n (s.map f) = (visit n s).map (mapEnd f)

theorem map_note (h : site.Projects f site') (k : Note) : (s.map f).note site' k = (s.note site k).map f := by
  simp only [note, map, h.note]

theorem run_map (h : site.Projects f site') (commands : List Command) (s : Session σ) :
    (s.map f).run site' n commands = mapEnd f (s.run site n commands) := by
  induction commands generalizing s with
  | nil => rfl
  | cons c commands ih =>
    have hperf : site'.perform n c (s.map f).world = _ := h.perform n c s.world
    rw [run, run, hperf]
    rcases site.perform n c s.world with ⟨_ | e, w⟩
    · exact ih { s with ran := s.ran ++ [(n, c)], world := w }
    · rfl

theorem conclude_map (h : site.Projects f site') (commands : List Command) (o : Outcome) (s : Session σ) :
    (s.map f).conclude site' n commands o = mapEnd f (s.conclude site n commands o) := by
  cases o with
  | some e => rfl
  | none =>
    have hrun := run_map (n := n) h commands s
    unfold conclude
    dsimp only
    rw [hrun]
    rcases s.run site n commands with ⟨_ | e, s'⟩
    · exact congrArg (Prod.mk none) (map_note h _)
    · rfl

theorem visitAll_map (hv : Carries f visit visit') (ns : List Name) (s : Session σ) :
    visitAll visit' ns (s.map f) = (visitAll visit ns s).map fun r => (r.1, r.2.map f) := by
  induction ns generalizing s with
  | nil => rfl
  | cons n ns ih =>
    rw [visitAll, visitAll, hv]
    cases visit n s with
    | none => rfl
    | some r =>
      rw [Option.bind_some]
      change (visitAll visit' ns (r.2.map f)).map _ = _
      rw [ih, Option.map_map, Option.map_map]
      rfl

theorem carryOut_map (h : site.Projects f site') (hv : Carries f visit visit') (p : Plan) (s : Session σ) :
    carryOut site' visit' n p (s.map f) = (carryOut site visit n p s).map (mapEnd f) := by
  have hawait : (if p.dependencies = [] then s.map f else (s.map f).update (·.await n p.dependencies)) =
      (if p.dependencies = [] then s else s.update (·.await n p.dependencies)).map f := by
    split <;> rfl
  unfold carryOut
  dsimp only
  rw [hawait, visitAll_map hv]
  cases visitAll visit p.dependencies (if p.dependencies = [] then s else s.update (·.await n p.dependencies)) with
  | none => rfl
  | some r => exact congrArg some (conclude_map h p.commands (blame n r.1) (r.2.update (·.release n)))

theorem build_map (h : site.Projects f site') (hv : Carries f visit visit') (s : Session σ) :
    build site' visit' n (s.map f) = (build site visit n s).map (mapEnd f) := by
  have hnote : ∀ k : Option Note, k.elim (s.map f) ((s.map f).note site') = (k.elim s (s.note site)).map f := by
    rintro (_ | k)
    · rfl
    · exact map_note h k
  unfold build
  rw [show site'.resolve (s.map f).world n = site.resolve s.world n from h.resolve _ _]
  dsimp only
  rw [hnote]
  cases site.resolve s.world n with
  | planned p pattern => exact carryOut_map h hv p _
  | present => rfl
  | missing => rfl

theorem visit_map (h : site.Projects f site') (depth : Nat) (ancestors : List Name) :
    Carries f (Session.visit site depth ancestors) (Session.visit site' depth ancestors) := by
  induction depth generalizing ancestors with
  | zero => exact fun _ _ => rfl
  | succ depth ih =>
    intro n s
    rw [Session.visit, Session.visit, show (s.map f).ledger = s.ledger from rfl]
    cases s.ledger.admission n ancestors with
    | refuse e => rfl
    | join =>
      change (s.ledger.outcome? n).map _ = ((s.ledger.outcome? n).map _).map _
      rw [map_note h, Option.map_map]
      rfl
    | own =>
      change (build site' _ n ((s.update (·.enroll n)).map f)).map _ = _
      rw [build_map h (ih _), Option.map_map, Option.map_map]
      rfl

/-- The other site lives through the same build. -/
theorem execute_map (h : site.Projects f site') (depth : Nat) (n : Name) (w : σ) :
    execute site' depth n { world := f w } = (execute site depth n { world := w }).map (mapEnd f) :=
  visit_map h depth [] n { world := w }

end Session

end Build

/-! ## Hosts -/

/-- The host with a list of the programs that it was asked to start. -/
def Host.recording (h : Host τ) : Host (τ × List Request) where
  kind s := h.kind s.1
  read s := h.read s.1
  enter path s := (h.enter path s.1).map (·, s.2)
  spawn r s :=
    let spawned := h.spawn r s.1
    { ending := spawned.ending, output := spawned.output, state := (spawned.state, s.2 ++ [r]) }
  nesting := h.nesting

/-- A host that has this text in every file and counts the programs it has started. Only `false` does not succeed. -/
def Host.holding (text : Text) : Host Nat where
  kind _ _ := .absent
  read _ _ := .ok (Utf8.encode text)
  enter _ s := .ok s
  spawn r s :=
    { ending := .ok (if r.arguments.head? = some (lit "false") then 1 else 0)
      output := [.commandOut (Utf8.encode ([' '].intercalate r.arguments))]
      state := s + 1 }

theorem Runner.run_recording (r : Runner) (h : Host τ) (c : Command) (target : Option Name) (s : τ × List Request) :
    r.run h c target s.1 = { outcome := (r.run h.recording c target s).outcome
                             output := (r.run h.recording c target s).output
                             state := (r.run h.recording c target s).state.1 } := by
  unfold Runner.run
  split <;> rfl

namespace CommandLine

/-- What a build writes, with another state of its host. -/
def Scene.map {τ' : Type} (f : τ → τ') (s : Scene τ) : Scene τ' := { output := s.output, state := f s.state }

/-- The result with another state of the host. -/
def Result.map {τ' : Type} (f : τ → τ') (r : Result τ) : Result τ' :=
  { exit := r.exit, output := r.output, crash := r.crash, state := f r.state }

theorem projects_recording (h : Host τ) (r : Runner) (b : Rulebook) :
    (site h.recording r b).Projects (Scene.map Prod.fst) (site h r b) := by
  refine ⟨fun _ _ => rfl, fun n c w => ?_, fun _ _ => rfl⟩
  have hrun := r.run_recording h c (some n) w.state
  simp only [site, Scene.map, hrun]

theorem ending_recording (h : Host τ) (c : Console) (o : Outcome) (scene : Scene (τ × List Request)) :
    ending h c o (scene.map Prod.fst) = (ending h.recording c o scene).map Prod.fst := by
  have htold : h.recording.told = h.told := rfl
  unfold ending
  rw [htold]
  rcases o.map h.told with _ | (e | x) <;> rfl

theorem build_recording (h : Host τ) (depth : Nat) (o : Choices) (b : Rulebook) (s : τ × List Request) :
    build h depth o b s.1 = (build h.recording depth o b s).map (Result.map Prod.fst) := by
  have hexec := Build.Session.execute_map (projects_recording h o.runner b) depth o.target (o.scene s)
  change Build.Session.execute (o.site h b) depth o.target { world := o.scene s.1 } = _ at hexec
  unfold build
  rw [hexec, Option.map_map, Option.map_map]
  congr 1
  funext p
  exact ending_recording h o.console p.1 p.2.world

theorem carryOut_recording (h : Host τ) (depth : Nat) (o : Choices) (s : τ × List Request) :
    carryOut h depth o s.1 = (carryOut h.recording depth o s).map (Result.map Prod.fst) := by
  have hhere : ∀ s : τ × List Request,
      carryOutHere h depth o s.1 = (carryOutHere h.recording depth o s).map (Result.map Prod.fst) := by
    intro s
    unfold carryOutHere
    rw [show h.recording.read s = h.read s.1 from rfl]
    rcases Description.load (h.read s.1) o.description with (e | x) | d
    · rfl
    · rfl
    · dsimp only
      split
      · rfl
      · rw [build_recording, Option.map_map, Option.map_map]
        rfl
  unfold carryOut
  cases o.directory with
  | none => exact hhere s
  | some path =>
    rw [Option.elim_some, Option.elim_some, show h.recording.enter path s = (h.enter path s.1).map (·, s.2) from rfl]
    cases h.enter path s.1 with
    | error x => rfl
    | ok entered => exact hhere (entered, s.2)

/-- Apart from its list, a recording host makes no difference to the program. -/
theorem run_recording (h : Host τ) (settings : Settings) (depth : Nat) (arguments : List Text)
    (s : τ × List Request) :
    run h settings depth arguments s.1 = (run h.recording settings depth arguments s).map (Result.map Prod.fst) := by
  unfold run
  rw [show understand h.recording settings arguments s = understand h settings arguments s.1 from rfl]
  cases understand h settings arguments s.1 with
  | error stop => cases stop <;> rfl
  | ok o => exact carryOut_recording h depth o s

end CommandLine

end Buildfile
