import Buildfile.Proofs.Projection
import Buildfile.Workspace
import Mathlib.Data.List.Basic
/-!
# Debugging does not change a build

A run that debugs writes more than one that does not, and that is all (`carryOut_quiet`): without the debug lines and
the stack traces, what it writes is what the other writes, and it ends alike and leaves its host alike. The runs are
compared step by step, for forgetting the debug output takes the site of the one to the site of the other
(`projects_quiet`).

On a command line `--debug` says nothing but whether to debug, wherever an option can stand (`understand_debug`).
-/

namespace Buildfile

variable {τ : Type}

/-- What was written apart from debug output. -/
def withoutDebug (ws : List Write) : List Write := ws.filter (!·.isDebug)

@[simp] theorem withoutDebug_append (ws ws' : List Write) :
    withoutDebug (ws ++ ws') = withoutDebug ws ++ withoutDebug ws' := List.filter_append ..

@[simp] theorem withoutDebug_debug (c : Console) (message : Text) : withoutDebug (c.debug message) = [] := by
  unfold Console.debug
  split <;> rfl

/-- Debug output does not show on standard output. -/
theorem standardOutput_withoutDebug (ws : List Write) : standardOutput (withoutDebug ws) = standardOutput ws := by
  induction ws with
  | nil => rfl
  | cons w ws ih =>
    have hw : w.isDebug = true → w.toOut = [] := by cases w <;> simp [Write.isDebug, Write.toOut]
    unfold standardOutput withoutDebug at ih ⊢
    by_cases hdebug : w.isDebug = true
    · rw [List.filter_cons_of_neg (by simp [hdebug]), ih, List.flatMap_cons, hw hdebug, List.nil_append]
    · rw [List.filter_cons_of_pos (by simp [hdebug]), List.flatMap_cons, ih, List.flatMap_cons]

/-- What programs write on this host is their own, and not debug output of whoever starts them. -/
def Host.Plain (h : Host τ) : Prop := ∀ r s, ∀ w ∈ (h.spawn r s).output, w.isDebug = false

theorem Host.Plain.recording {h : Host τ} (hplain : h.Plain) : h.recording.Plain := fun r s => hplain r s.1

theorem Host.holding_plain (text : Text) : (Host.holding text).Plain := by
  intro r s w hw
  rw [List.mem_singleton.1 hw]
  rfl

theorem Workspace.host_plain : Workspace.host.Plain := by
  have hwrites : ∀ output, ∀ w ∈ writes output, w.isDebug = false := by
    intro output w hw
    obtain ⟨p, -, rfl⟩ := List.mem_map.1 hw
    cases p.1 <;> rfl
  intro r s w hw
  change w ∈ (spawn r s).output at hw
  unfold spawn at hw
  split at hw
  · cases hw
  split at hw
  · cases hw
  dsimp only at hw
  split at hw
  · cases hw
  · exact hwrites _ w hw

namespace CommandLine

variable {h : Host τ}

/-! ## Two sites -/

/-- The scene without debug output. -/
def Scene.quiet (s : Scene τ) : Scene τ := { s with output := withoutDebug s.output }

/-- The result without debug output. -/
def Result.quiet (r : Result τ) : Result τ := { r with output := withoutDebug r.output }

theorem withoutDebug_run (hplain : h.Plain) (r : Runner) (c : Command) (target : Option Name) (s : τ) :
    withoutDebug (r.run h c target s).output = (r.run h c target s).output := by
  have hshown : withoutDebug (r.shown c) = r.shown c := by
    unfold Runner.shown
    split <;> rfl
  have hspawned : ∀ q, withoutDebug (h.spawn q s).output = (h.spawn q s).output := by
    intro q
    refine List.filter_eq_self.2 fun w hw => ?_
    rw [hplain q s w hw]
    rfl
  unfold Runner.run
  split
  · exact hshown
  · exact hshown
  · rw [withoutDebug_append, hshown, hspawned]

/-- Forgetting the debug output takes a site to the one that does not debug. -/
theorem projects_quiet (hplain : h.Plain) (r : Runner) (b : Rulebook) :
    (site h r b).Projects Scene.quiet (site h { r with console := {} } b) := by
  refine ⟨fun _ _ => rfl, fun n c w => ?_, fun k w => ?_⟩
  · have hrun := withoutDebug_run hplain r c (some n) w.state
    have hsame : Runner.run { r with console := {} } h c (some n) w.state = r.run h c (some n) w.state := rfl
    simp only [site, Scene.quiet, hsame, withoutDebug_append, hrun]
  · simp only [site, Scene.quiet, withoutDebug_append, withoutDebug_debug]
    rfl

/-! ## Two runs -/

theorem withoutDebug_report (c : Console) (e : BuildError) : withoutDebug (report c e) = report {} e := by
  unfold report Console.error
  split <;> rfl

theorem withoutDebug_reportBuild (c : Console) (e : BuildError) :
    withoutDebug (reportBuild c e) = reportBuild {} e := by
  have htrace : withoutDebug (if c.debugging then c.exception e else []) = [] := by
    split
    · next hdebugging =>
      rw [Console.exception, if_pos hdebugging]
      rfl
    · rfl
  rw [reportBuild, withoutDebug_append, withoutDebug_report, htrace]
  rfl

theorem ending_quiet (h : Host τ) (c : Console) (o : Outcome) (s : Scene τ) :
    ending h {} o s.quiet = (ending h c o s).quiet := by
  unfold ending
  rcases o.map h.told with _ | (e | x)
  · simp only [Result.quiet, Scene.quiet, withoutDebug_append, withoutDebug_debug]
    rfl
  · simp only [Result.quiet, Scene.quiet, withoutDebug_append, withoutDebug_reportBuild]
  · rfl

theorem scene_quiet (o : Choices) (s : τ) : (o.scene s).quiet = { o with debugging := false }.scene s := by
  simp only [Choices.scene, Scene.quiet, withoutDebug_debug]
  rfl

theorem build_quiet (hplain : h.Plain) (depth : Nat) (o : Choices) (b : Rulebook) (s : τ) :
    build h depth { o with debugging := false } b s = (build h depth o b s).map Result.quiet := by
  have hexec := Build.Session.execute_map (projects_quiet hplain o.runner b) depth o.target (o.scene s)
  rw [scene_quiet] at hexec
  change Build.Session.execute ({ o with debugging := false }.site h b) depth o.target _ = _ at hexec
  unfold build
  dsimp only
  rw [hexec, Option.map_map, Option.map_map]
  congr 1
  funext p
  exact ending_quiet h o.console p.1 p.2.world

theorem withoutDebug_announce (c : Console) (d : Description) : withoutDebug (announce c d) = [] := by
  have hlines : ∀ ls : List Text, withoutDebug (ls.flatMap c.debug) = [] := by
    intro ls
    induction ls with
    | nil => rfl
    | cons l ls ih => rw [List.flatMap_cons, withoutDebug_append, withoutDebug_debug, ih, List.nil_append]
  rw [announce, withoutDebug_append, withoutDebug_debug, hlines, List.nil_append]

theorem withoutDebug_map {f : Text → Write} (hf : ∀ t, (f t).isDebug = false) (ts : List Text) :
    withoutDebug (ts.map f) = ts.map f := by
  refine List.filter_eq_self.2 fun w hw => ?_
  obtain ⟨t, -, rfl⟩ := List.mem_map.1 hw
  rw [hf]
  rfl

theorem carryOutHere_quiet (hplain : h.Plain) (depth : Nat) (o : Choices) (s : τ) :
    carryOutHere h depth { o with debugging := false } s = (carryOutHere h depth o s).map Result.quiet := by
  have hopening : withoutDebug o.opening = [] := withoutDebug_debug _ _
  unfold carryOutHere
  dsimp only
  rcases Description.load (h.read s) o.description with (e | x) | d
  · simp only [Option.map_some, Result.quiet, withoutDebug_append, hopening, withoutDebug_report]
    rfl
  · simp only [Option.map_some, Result.quiet, hopening]
    rfl
  · have hpreface : withoutDebug (o.preface d) = [] := by
      rw [Choices.preface, withoutDebug_append, hopening, withoutDebug_announce, List.nil_append]
    have hquiet : { o with debugging := false }.preface d = [] := by
      simp [Choices.preface, Choices.opening, Choices.console, announce, Console.debug]
    dsimp only
    split
    · simp only [Option.map_some, Result.quiet, withoutDebug_append, Console.names,
        withoutDebug_map (f := .out) fun _ => rfl, hpreface, hquiet]
    · rw [build_quiet hplain, hquiet, Option.map_map, Option.map_map]
      congr 1
      funext res
      simp only [Function.comp, Result.quiet, withoutDebug_append, hpreface]

theorem carryOut_quiet (hplain : h.Plain) (depth : Nat) (o : Choices) (s : τ) :
    carryOut h depth { o with debugging := false } s = (carryOut h depth o s).map Result.quiet := by
  unfold carryOut
  dsimp only
  cases o.directory.elim (.ok s) (h.enter · s) with
  | error x => rfl
  | ok entered => exact carryOutHere_quiet hplain depth o entered

theorem halt_quiet (settings : Settings) (s : τ) (stop : Halt) :
    (halt settings s stop).quiet = halt settings s stop := by
  cases stop with
  | version => rfl
  | help => exact congrArg (fun ws => Result.mk 0 ws none s) (withoutDebug_map (fun _ => rfl) _)
  | fault f => exact congrArg (fun ws => Result.mk 2 ws none s) (withoutDebug_map (fun _ => rfl) _)
  | crash x => rfl

/-! ## Two command lines -/

/-- A further argument behind these is taken for an option if it looks like one: the last of them is not an option
whose value is still to come, and none of them ends the options. -/
def Whole : List Text → Prop
  | [] => True
  | a :: rest =>
    if a = ['-', '-'] then False
    else if isOption a then
      match readOption a, rest with
      | .error _, _ => True
      | .ok ⟨_, none⟩, rest => Whole rest
      | .ok ⟨_, some _⟩, [] => False
      | .ok ⟨_, some _⟩, _ :: rest => Whole rest
    else Whole rest

/-- What two parts of a command line say together. -/
def together (r r' : List Occurrence × List Text) : List Occurrence × List Text := (r.1 ++ r'.1, r.2 ++ r'.2)

/-- What is said in front of a part does not matter to what stands behind it. -/
theorem map_bind_together {g : List Occurrence × List Text → List Occurrence × List Text}
    (hg : ∀ r r', g (together r r') = together (g r) r') (x y : Except UsageFault (List Occurrence × List Text)) :
    (x.bind fun r => y.map (together r)).map g = (x.map g).bind fun r => y.map (together r) := by
  rcases x with f | r
  · rfl
  · rcases y with f | r'
    · rfl
    · exact congrArg Except.ok (hg r r')

theorem read_append {before : List Text} (hbefore : Whole before) (after : List Text) :
    read (before ++ after) = (read before).bind fun r => (read after).map (together r) := by
  rw [Whole.eq_def] at hbefore
  induction before using read.induct with
  | case1 =>
    rw [List.nil_append, read]
    cases read after <;> rfl
  | case2 rest => simp at hbefore
  | case3 a rest hend hoption f ha =>
    rw [List.cons_append, read_cons_error hend hoption ha, read_cons_error hend hoption ha]
    rfl
  | case4 a hend hoption complete rest ha ih =>
    simp only [hend, hoption, ha, if_true, if_false] at hbefore
    rw [Whole.eq_def] at hbefore
    rw [List.cons_append, read_cons_complete hend hoption ha, read_cons_complete hend hoption ha, ih hbefore]
    exact map_bind_together (fun r r' => by simp [together]) _ _
  | case5 a hend hoption complete s ha => simp [hend, hoption, ha] at hbefore
  | case6 a hend hoption complete s v rest ha ih =>
    simp only [hend, hoption, ha, if_true, if_false] at hbefore
    rw [Whole.eq_def] at hbefore
    rw [List.cons_append, List.cons_append, read_cons_pending hend hoption ha, read_cons_pending hend hoption ha,
      ih hbefore]
    exact map_bind_together (fun r r' => by simp [together]) _ _
  | case7 a rest hend hoption ih =>
    have hoperand : isOption a = false := by simpa using hoption
    simp only [hend, hoperand, Bool.false_eq_true, if_false] at hbefore
    rw [Whole.eq_def] at hbefore
    rw [List.cons_append, read_cons_operand hend hoperand, read_cons_operand hend hoperand, ih hbefore]
    exact map_bind_together (fun _ _ => rfl) _ _

theorem read_debug (after : List Text) :
    read (lit "--debug" :: after) = (read after).map fun r => (.turn .debug true :: r.1, r.2) := by
  have ha : readOption (lit "--debug") = .ok ⟨[.turn .debug true], none⟩ := by decide +kernel
  exact read_cons_complete (by decide +kernel) (by decide +kernel) ha

/-- The option to debug says whether to debug, and nothing else. -/
theorem choose_debug (settings : Settings) (kind : Text → PathKind) (os os' : List Occurrence) (operands : List Text) :
    choose settings kind (os ++ .turn .debug true :: os') operands =
      (choose settings kind (os ++ os') operands).map fun o => { o with debugging := !settings.debug } := by
  have hhalt : halt? (os ++ .turn .debug true :: os') = halt? (os ++ os') := by simp [halt?]
  have hvalue : ∀ t, lastValue? (os ++ .turn .debug true :: os') t = lastValue? (os ++ os') t := by
    intro t
    simp [lastValue?]
  have hquoting : lastTurn? (os ++ .turn .debug true :: os') .quoting = lastTurn? (os ++ os') .quoting := by
    simp [lastTurn?]
  have hlisting : lastTurn? (os ++ .turn .debug true :: os') .listing = lastTurn? (os ++ os') .listing := by
    simp [lastTurn?]
  have hdebug : (lastTurn? (os ++ .turn .debug true :: os') .debug).isSome = true := by
    simp [lastTurn?]
  have hfault : ∀ fault? : Topic → Option Halt, fault? .debug = none →
      (checkedTopics (os ++ .turn .debug true :: os')).findSome? fault? =
        (checkedTopics (os ++ os')).findSome? fault? := by
    intro fault? hnone
    simp [checkedTopics, Occurrence.topic, List.findSome?_append, hnone]
  unfold choose
  rw [hhalt]
  cases halt? (os ++ os') with
  | some stop => rfl
  | none =>
    dsimp only
    rw [hvalue, hvalue, hvalue, hquoting, hlisting, hdebug, if_pos rfl, hfault _ rfl]
    generalize ((lastValue? (os ++ os') .jobs).orElse fun _ => settings.jobs).mapM jobsOf = jobs
    generalize (lastValue? (os ++ os') .directory).mapM (directoryOf kind) = directory
    split
    · split <;> rfl
    · rfl
    · rfl
    · rfl

theorem understand_debug {settings : Settings} {before : List Text} (hbefore : Whole before) (after : List Text)
    (s : τ) : understand h settings (before ++ lit "--debug" :: after) s =
      (understand h settings (before ++ after) s).map fun o => { o with debugging := !settings.debug } := by
  unfold understand
  rw [read_append hbefore, read_append hbefore, read_debug]
  cases read before with
  | error f => rfl
  | ok r =>
    cases read after with
    | error f => rfl
    | ok r' => exact choose_debug settings (h.kind s) r.1 r'.1 (r.2 ++ r'.2)

/-! ## The main theorem -/

/-- A run whose settings do not ask for debugging does not debug unless an option says so. -/
theorem not_debugging {settings : Settings} (hsettings : settings.debug = false) {arguments : List Text} {s : τ}
    (hnone : ∀ os operands, read arguments = .ok (os, operands) → ∀ x ∈ os, x.topic ≠ .debug) {o : Choices}
    (ho : understand h settings arguments s = .ok o) : o.debugging = false := by
  unfold understand at ho
  cases hread : read arguments with
  | error f =>
    rw [hread] at ho
    cases ho
  | ok r =>
    obtain ⟨os, operands⟩ := r
    have hlast : lastTurn? os .debug = none := by
      rw [lastTurn?, List.getLast?_eq_none_iff, List.filterMap_eq_nil_iff]
      intro x hx
      have htopic := hnone os operands hread x hx
      cases x with
      | value t v => rfl
      | turn t on => exact if_neg htopic
    rw [hread] at ho
    dsimp only at ho
    unfold choose at ho
    split at ho
    · cases ho
    · dsimp only at ho
      split at ho
      · split at ho
        · cases ho
        · cases ho
          simp [hlast, hsettings]
      · cases ho
      · cases ho
      · cases ho

/-- A run that does not debug writes no debug output. -/
theorem run_quiet (hplain : h.Plain) {settings : Settings} {arguments : List Text} {s : τ}
    (hquiet : ∀ o, understand h settings arguments s = .ok o → o.debugging = false) (depth : Nat) :
    (run h settings depth arguments s).map Result.quiet = run h settings depth arguments s := by
  unfold run
  cases hu : understand h settings arguments s with
  | error stop => exact congrArg some (halt_quiet settings s stop)
  | ok o =>
    have hsame : { o with debugging := false } = o := by rw [← hquiet o hu]
    have hrun := carryOut_quiet hplain depth o s
    rw [hsame] at hrun
    exact hrun.symm

/-- The option to debug changes debug output only. -/
theorem run_debug (hplain : h.Plain) (settings : Settings) (depth : Nat) {before : List Text} (hbefore : Whole before)
    (after : List Text) (s : τ) :
    (run h settings depth (before ++ lit "--debug" :: after) s).map Result.quiet =
      (run h settings depth (before ++ after) s).map Result.quiet := by
  unfold run
  rw [understand_debug hbefore]
  cases understand h settings (before ++ after) s with
  | error stop => rfl
  | ok o =>
    change (carryOut h depth { o with debugging := !settings.debug } s).map Result.quiet =
      (carryOut h depth o s).map Result.quiet
    rw [← carryOut_quiet hplain, ← carryOut_quiet hplain]

/-- Two runs whose command lines differ in `--debug` only, wherever an option can stand, both end or neither does. They
end with the same status and the same crash, write the same to standard output, leave their host in the same state and
have asked it to start the same programs in the same order. Apart from debug output they write the same; and if
neither the settings nor another option ask for debugging, the one without the option writes what the other does
without the debug output.

The last part is said of any choices, however a command line is read: what is done for them without debugging is what is
done for them with it, but for the debug output. -/
theorem debug_harmless (hplain : h.Plain) (settings : Settings) (depth : Nat) {before : List Text}
    (hbefore : Whole before) (after : List Text) (s : τ) :
    (run h.recording settings depth (before ++ after) (s, []) = none ↔
      run h.recording settings depth (before ++ lit "--debug" :: after) (s, []) = none) ∧
    (∀ quiet loud, run h.recording settings depth (before ++ after) (s, []) = some quiet →
      run h.recording settings depth (before ++ lit "--debug" :: after) (s, []) = some loud →
        quiet.exit = loud.exit ∧ quiet.crash = loud.crash ∧
        standardOutput quiet.output = standardOutput loud.output ∧ quiet.state = loud.state ∧
        withoutDebug quiet.output = withoutDebug loud.output ∧
        (settings.debug = false →
          (∀ os operands, read (before ++ after) = .ok (os, operands) → ∀ x ∈ os, x.topic ≠ .debug) →
          quiet.output = withoutDebug loud.output)) ∧
    ∀ o : Choices, carryOut h.recording depth { o with debugging := false } (s, []) =
      (carryOut h.recording depth o (s, [])).map fun res => { res with output := withoutDebug res.output } := by
  have hrun := run_debug hplain.recording settings depth hbefore after (s, [])
  refine ⟨?_, ?_, fun o => carryOut_quiet hplain.recording depth o (s, [])⟩
  · have hnone := congrArg (· = none) hrun
    simpa using hnone.symm
  · intro quiet loud hquiet hloud
    rw [hquiet, hloud, Option.map_some, Option.map_some, Option.some.injEq] at hrun
    have houtput : withoutDebug loud.output = withoutDebug quiet.output := congrArg Result.output hrun
    refine ⟨(congrArg Result.exit hrun).symm, (congrArg Result.crash hrun).symm, ?_, (congrArg Result.state hrun).symm,
      houtput.symm, fun hsettings hnone => ?_⟩
    · rw [← standardOutput_withoutDebug, ← houtput, standardOutput_withoutDebug]
    · have hself := run_quiet hplain.recording (s := (s, [])) (fun o => not_debugging hsettings hnone) depth
      rw [hquiet, Option.map_some, Option.some.injEq] at hself
      exact (congrArg Result.output hself).symm.trans houtput.symm

/-- A build that fails does so alike with and without its debug output. -/
theorem debug_harmless_failing :
    let host := (Host.holding (lit "all: b\n\tone\nb:\n\t@two\n\tfalse\n")).recording
    ∃ quiet loud, run host {} 3 [lit "-f", lit "x"] (0, []) = some quiet ∧
      run host {} 3 [lit "-f", lit "x", lit "--debug"] (0, []) = some loud ∧
      loud.exit = 1 ∧ quiet.exit = 1 ∧
      quiet.state = (2, [{ arguments := [lit "two"] }, { arguments := [lit "false"] }]) ∧
      loud.state = quiet.state ∧ quiet.output = withoutDebug loud.output ∧ loud.output ≠ quiet.output := by
  intro host
  have hquiet : (run host {} 3 [lit "-f", lit "x"] (0, [])).any (fun res =>
      decide (res.exit = 1 ∧ res.state = (2, [{ arguments := [lit "two"] }, { arguments := [lit "false"] }]))) =
        true := by
    decide +kernel
  have hloud : (run host {} 3 [lit "-f", lit "x", lit "--debug"] (0, [])).any (fun res =>
      res.output.any Write.isDebug) = true := by
    decide +kernel
  obtain ⟨quiet, hquiet, hcount⟩ := (Option.any_eq_true _ _).1 hquiet
  obtain ⟨loud, hloud, hdebug⟩ := (Option.any_eq_true _ _).1 hloud
  obtain ⟨hexit, hstate⟩ := of_decide_eq_true hcount
  have hf : readOption (lit "-f") = .ok ⟨[], some ⟨lit "-f", .description, .value⟩⟩ := by decide +kernel
  have hend : lit "-f" ≠ ['-', '-'] := by decide +kernel
  have hoption : isOption (lit "-f") = true := by decide +kernel
  have hwhole : Whole [lit "-f", lit "x"] := by
    rw [Whole.eq_def]
    simp only [if_neg hend, if_pos hoption, hf]
    exact trivial
  have hread : read ([lit "-f", lit "x"] ++ []) = .ok ([.value .description (lit "x")], []) :=
    read_cons_pending hend hoption hf
  obtain ⟨hexit', -, -, hstate', -, houtput⟩ := (debug_harmless (Host.holding_plain _) {} 3 hwhole [] 0).2.1
    quiet loud hquiet hloud
  have hsame : quiet.output = withoutDebug loud.output := houtput rfl fun os operands h x hx => by
    rw [hread] at h
    cases h
    rw [List.mem_singleton.1 hx]
    decide
  refine ⟨quiet, loud, hquiet, hloud, hexit' ▸ hexit, hexit, hstate, hstate'.symm, hsame, fun heq => ?_⟩
  obtain ⟨w, hw, hdebug⟩ := List.any_eq_true.1 hdebug
  rw [heq, hsame, withoutDebug, List.mem_filter, hdebug] at hw
  exact absurd hw.2 (by decide)

end CommandLine

end Buildfile
