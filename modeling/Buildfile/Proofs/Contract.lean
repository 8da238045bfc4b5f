import Buildfile.Proofs.Completion
import Buildfile.Proofs.Debugging
import Buildfile.Proofs.Sights
import Buildfile.Proofs.WellFormed
import Buildfile.Proofs.Writing
/-!
# What the command line promises

Once its command line is understood, a run does one of three things. A description that cannot be read is reported and
nothing is started (`refused_of_load`); a listing names the rules and starts nothing (`listed_of_load`); and a build
ends with status zero exactly if the target can be built, and with the report of an error if that is what stops it
(`built_of_load`). The message of an error names each dependency on the way to its innermost cause.

What can be built is told by the files and failures that the build comes upon, for they may change while it runs. Where
they do not change, they alone decide (`succeeds_iff_of_steady`).
-/

namespace Buildfile

variable {τ : Type}

/-! ## Output -/

theorem standardOutput_append (ws ws' : List Write) :
    standardOutput (ws ++ ws') = standardOutput ws ++ standardOutput ws' := List.flatMap_append

/-- Debug lines do not show on standard output. -/
theorem standardOutput_eq_nil {ws : List Write} (h : withoutDebug ws = []) : standardOutput ws = [] := by
  rw [← standardOutput_withoutDebug, h]
  rfl

/-- Names are shown on standard output, one on each line. -/
theorem standardOutput_names (c : Console) (ns : List Text) :
    standardOutput (c.names ns) = Utf8.encode (ns.flatMap (· ++ ['\n'])) := by
  rw [standardOutput, Console.names, List.flatMap_map, Utf8.encode, List.flatMap_assoc]
  rfl

namespace Rule

/-- The name of a well-formed rule and its mark stand on one line. -/
theorem WellFormed.unbroken_label {r : Rule} (h : r.WellFormed) : r.label.Unbroken := by
  unfold label
  refine Text.unbroken_append.2 ⟨Description.unbroken_of_isWord h.name.word, ?_⟩
  split
  · decide +kernel
  · exact Text.unbroken_nil

end Rule

namespace Description

variable {read : Text → Except Refusal Bytes} {path : Text} {d : Description}

/-- Reading a description crashes only if its path is none that the system takes. -/
theorem load_crash {x : Crash} (h : load read path = .error (.crash x)) :
    read (Path.normalise path) = .error (.invalid x) := by
  unfold load at h
  dsimp only at h
  split at h
  · cases h
  · next hread =>
    cases h
    exact hread
  · next content _ =>
    cases hof : ofBytes (Path.normalise path) content <;> rw [hof] at h <;> cases h

theorem wellFormed_of_load (h : load read path = .ok d) : d.WellFormed := by
  unfold load at h
  dsimp only at h
  split at h
  · cases h
  · cases h
  · next content _ =>
    cases hof : ofBytes (Path.normalise path) content with
    | error e =>
      rw [hof] at h
      cases h
    | ok d' =>
      rw [hof] at h
      cases h
      unfold ofBytes at hof
      split at hof
      · cases hof
      · exact wellFormed_of_parse hof

end Description

namespace CommandLine

open Build

variable {h : Host τ} {settings : Settings} {arguments : List Text} {o : Choices} {s s' : τ} {d : Description}
  {depth : Nat} {res : Result τ}

/-! ## Reports -/

/-- The heading of the innermost cause is written to standard error, and below it a message that names each dependency
from the outermost inwards before the message of that cause. -/
def Reports (ws : List Write) (e : BuildError) : Prop :=
  ∃ before after, ws = before ++ .err (lit "ERROR: " ++ e.root.heading) ::
    .err (e.path.flatMap (fun p => BuildError.dependencyMark p.2) ++ e.root.message) :: after

/-- What is written before an error is reported does not matter. -/
theorem reports_append (ws after : List Write) (c : Console) (e : BuildError) :
    Reports (ws ++ (report c e ++ after)) e := by
  refine ⟨ws, (if suggestion e = [] then [] else [.err ('\n' :: suggestion e)]) ++ after, ?_⟩
  rw [← BuildError.message_eq]
  rfl

theorem Reports.append_left {ws : List Write} {e : BuildError} (h : Reports ws e) (front : List Write) :
    Reports (front ++ ws) e := by
  obtain ⟨before, after, rfl⟩ := h
  exact ⟨front ++ before, after, by rw [List.append_assoc]⟩

/-- The program fails for this reason: an error is reported, and a crash is not. -/
def Fails (res : Result τ) : Failure → Prop
  | .error e => res.exit = 1 ∧ res.crash = none ∧ Reports res.output e
  | .crash x => res.exit = 1 ∧ res.crash = some x

/-- What the program answers when a build has ended like this. -/
def Answers (h : Host τ) (res : Result τ) : Outcome → Prop
  | none => res.exit = 0 ∧ res.crash = none
  | some f => Fails res (h.told f)

theorem answers_ending (h : Host τ) (c : Console) (outcome : Outcome) (scene : Scene τ) :
    Answers h (ending h c outcome scene) outcome := by
  cases outcome with
  | none => exact ⟨rfl, rfl⟩
  | some f =>
    change Fails (ending h c (some f) scene) (h.told f)
    unfold ending
    rw [Option.map_some]
    cases h.told f with
    | error e => exact ⟨rfl, rfl, reports_append scene.output _ c e⟩
    | crash x => exact ⟨rfl, rfl⟩

theorem Fails.exit_eq_one {f : Failure} (hfails : Fails res f) : res.exit = 1 := by
  cases f <;> exact hfails.1

theorem Answers.exit_eq_zero_iff {outcome : Outcome} (hanswers : Answers h res outcome) :
    res.exit = 0 ↔ outcome = none := by
  cases outcome with
  | none => simp [hanswers.1]
  | some f => simp [Fails.exit_eq_one hanswers]

/-! ## Descriptions that cannot be read -/

/-- Nothing is started for a description that cannot be read, and nothing written to standard output. -/
theorem refused_of_load {f : Failure} (hread : Description.load (h.read s) o.description = .error f) (depth : Nat) :
    ∃ res, carryOutHere h depth o s = some res ∧ res.state = s ∧ standardOutput res.output = [] ∧ Fails res f := by
  have hopening : standardOutput o.opening = [] := standardOutput_eq_nil (withoutDebug_debug _ _)
  unfold carryOutHere
  rw [hread]
  cases f with
  | error e =>
    refine ⟨_, rfl, rfl, ?_, rfl, rfl, ?_⟩
    · rw [standardOutput_append, hopening]
      unfold report Console.error
      split <;> rfl
    · have hreports := reports_append o.opening [] o.console e
      rwa [List.append_nil] at hreports
  | crash x => exact ⟨_, rfl, rfl, hopening, rfl, rfl⟩

/-! ## Listings -/

/-- Nothing is started for a listing. The lines of what is written to standard output are the names of the rules in
their order, those of patterns marked. -/
theorem listed_of_load (hread : Description.load (h.read s) o.description = .ok d) (hlisting : o.listing = true)
    (depth : Nat) : ∃ res text, carryOutHere h depth o s = some res ∧ res.state = s ∧ res.exit = 0 ∧ res.crash = none ∧
      standardOutput res.output = Utf8.encode text ∧ text.lines = d.rulebook.rules.map Rule.label := by
  unfold carryOutHere
  rw [hread]
  dsimp only
  rw [if_pos hlisting]
  refine ⟨_, (d.rulebook.rules.map Rule.label).flatMap (· ++ ['\n']), rfl, rfl, rfl, rfl, ?_, ?_⟩
  · rw [Choices.preface, standardOutput_append, standardOutput_append, Choices.opening,
      standardOutput_eq_nil (withoutDebug_debug _ _), standardOutput_eq_nil (withoutDebug_announce _ d),
      standardOutput_names]
    rfl
  · refine Text.lines_flatMap_newline fun l hl => ?_
    obtain ⟨r, hr, rfl⟩ := List.mem_map.1 hl
    exact ((Description.wellFormed_of_load hread).rules r hr).unbroken_label

/-! ## Builds -/

/-- How the build of the target ends, and what it comes upon. -/
def watch (h : Host τ) (depth : Nat) (o : Choices) (b : Rulebook) (s : τ) : Option (Outcome × List Sight) :=
  (Session.execute (o.site h b).watched depth o.target { world := (o.scene s, []) }).map fun p => (p.1, p.2.world.2)

theorem keeps_site (b : Rulebook) : (o.site h b).Keeps fun _ => True := ⟨fun _ _ _ => trivial, fun _ _ => trivial⟩

theorem follows_site (b : Rulebook) (w : Scene τ) : (o.site h b).Follows b w := ⟨_, fun _ => rfl⟩

/-- A run that builds ends as its build does. -/
theorem carryOutHere_eq_some_iff (hread : Description.load (h.read s) o.description = .ok d)
    (hbuilding : o.listing = false) : carryOutHere h depth o s = some res ↔ ∃ outcome session,
      Session.execute (o.site h d.rulebook) depth o.target { world := o.scene s } = some (outcome, session) ∧
      res = { ending h o.console outcome session.world with
        output := o.preface d ++ (ending h o.console outcome session.world).output } := by
  unfold carryOutHere build
  rw [hread]
  dsimp only
  rw [hbuilding, if_neg Bool.false_ne_true, Option.map_map]
  simp only [Option.map_eq_some_iff, Prod.exists, Function.comp_apply, eq_comm (a := res)]

theorem Fails.with_output {f : Failure} (hfails : Fails res f) (front : List Write) :
    Fails { res with output := front ++ res.output } f := by
  cases f with
  | error e => exact ⟨hfails.1, hfails.2.1, hfails.2.2.append_left front⟩
  | crash x => exact hfails

theorem Answers.with_output {outcome : Outcome} (hanswers : Answers h res outcome) (front : List Write) :
    Answers h { res with output := front ++ res.output } outcome := by
  cases outcome with
  | none => exact hanswers
  | some f => exact Fails.with_output hanswers front

/-- A build answers as it ends, and it ends well exactly if its target can be built from what it has come upon. -/
theorem built_of_load (hread : Description.load (h.read s) o.description = .ok d) (hbuilding : o.listing = false)
    (hrun : carryOutHere h depth o s = some res) : ∃ outcome log, watch h depth o d.rulebook s = some (outcome, log) ∧
      Answers h res outcome ∧
      (res.exit = 0 ↔ d.rulebook.Buildable (Sight.isFile log) (Sight.succeeds log) o.target) := by
  obtain ⟨outcome, session, hexec, rfl⟩ := (carryOutHere_eq_some_iff hread hbuilding).1 hrun
  have hproject := Session.execute_map (o.site h d.rulebook).projects_watched depth o.target (o.scene s, [])
  rw [hexec] at hproject
  obtain ⟨⟨outcome', watched⟩, hwatched, heq⟩ := Option.map_eq_some_iff.1 hproject.symm
  obtain rfl : outcome' = outcome := congrArg Prod.fst heq
  have hanswers := (answers_ending h o.console outcome' session.world).with_output (o.preface d)
  refine ⟨outcome', watched.world.2, by rw [watch, hwatched]; rfl, hanswers, ?_⟩
  rw [hanswers.exit_eq_zero_iff]
  exact Session.execute_watched (keeps_site d.rulebook) (fun w _ => follows_site d.rulebook w) trivial hwatched

theorem ends_iff_finite (hread : Description.load (h.read s) o.description = .ok d) (hbuilding : o.listing = false) :
    (∃ depth res, carryOutHere h depth o s = some res) ↔
      {k | Relation.ReflTransGen d.rulebook.Needs o.target k}.Finite := by
  have hf : ∀ w : Scene τ, True → (o.site h d.rulebook).Follows d.rulebook w := fun w _ => follows_site _ w
  simp only [carryOutHere_eq_some_iff hread hbuilding]
  constructor
  · rintro ⟨depth, res, outcome, session, hexec, -⟩
    exact Session.finite_of_ends (keeps_site _) hf trivial ⟨depth, _, hexec⟩
  · intro hfinite
    obtain ⟨depth, ⟨outcome, session⟩, hexec⟩ := Session.ends_of_finite (keeps_site _) hf trivial hfinite
    exact ⟨depth, _, outcome, session, hexec, rfl⟩

/-- As long as the host is within bounds, these names lead to something, these commands of a runner succeed, and no
command leads out of the bounds. -/
structure Steady (h : Host τ) (r : Runner) (ok : τ → Prop) (isFile : Name → Bool)
    (succeeds : Name → Command → Bool) : Prop where
  file {s : τ} (n : Name) : ok s → (h.kind s n ≠ .absent ↔ isFile n = true)
  command {s : τ} (n : Name) (c : Command) : ok s → ((r.run h c (some n) s).outcome = none ↔ succeeds n c = true)
  keeps {s : τ} (n : Name) (c : Command) : ok s → ok (r.run h c (some n) s).state

/-- Where files and commands stay as they are, a run succeeds exactly if they let its target be built. -/
theorem succeeds_iff_of_steady {ok : τ → Prop} {isFile : Name → Bool} {succeeds : Name → Command → Bool}
    (hsteady : Steady h o.runner ok isFile succeeds) (hs : ok s)
    (hread : Description.load (h.read s) o.description = .ok d) (hbuilding : o.listing = false) :
    (∃ depth res, carryOutHere h depth o s = some res ∧ res.exit = 0) ↔
      d.rulebook.Buildable isFile succeeds o.target := by
  have hk : (o.site h d.rulebook).Keeps fun w => ok w.state :=
    ⟨fun n c hw => hsteady.keeps n c hw, fun _ hw => hw⟩
  have hdecides : ∀ w : Scene τ, ok w.state → (o.site h d.rulebook).Decides d.rulebook isFile succeeds w := by
    intro w hw
    have hfiles : (fun n => decide (h.kind w.state n ≠ .absent)) = isFile := by
      funext n
      rw [Bool.eq_iff_iff, decide_eq_true_iff]
      exact hsteady.file n hw
    exact ⟨fun n => congrArg (resolve d.rulebook · n) hfiles, fun n c => hsteady.command n c hw⟩
  have hdecided : ∀ {depth outcome session},
      Session.execute (o.site h d.rulebook) depth o.target { world := o.scene s } = some (outcome, session) →
      (outcome = none ↔ d.rulebook.Buildable isFile succeeds o.target) := fun hexec =>
    Machine.execute_decided hk hdecides hs hexec
  constructor
  · rintro ⟨depth, res, hrun, hexit⟩
    obtain ⟨outcome, session, hexec, rfl⟩ := (carryOutHere_eq_some_iff hread hbuilding).1 hrun
    exact (hdecided hexec).1 ((answers_ending h _ outcome session.world).exit_eq_zero_iff.1 hexit)
  · intro hbuild
    obtain ⟨depth, res, hrun⟩ := (ends_iff_finite hread hbuilding).2 hbuild.finite
    obtain ⟨outcome, session, hexec, rfl⟩ := (carryOutHere_eq_some_iff hread hbuilding).1 hrun
    refine ⟨depth, _, hrun, ?_⟩
    exact (answers_ending h _ outcome session.world).exit_eq_zero_iff.2 ((hdecided hexec).2 hbuild)

/-! ## The main theorem -/

theorem entered_recording (hentered : o.directory.elim (.ok s) (h.enter · s) = .ok s') :
    o.directory.elim (.ok (s, [])) (h.recording.enter · (s, [])) = .ok (s', []) := by
  cases hd : o.directory with
  | none =>
    rw [hd] at hentered
    cases hentered
    rfl
  | some path =>
    rw [hd] at hentered
    change (h.enter path s).map (·, []) = _
    rw [show h.enter path s = .ok s' from hentered]
    rfl

/-- Let a run have made its choices and entered its directory. What is said of `carryOut` holds of any choices, however
a command line is read; a run does that for the choices that it understands.

* If the description cannot be read, the run ends at once. It starts nothing and writes nothing to standard output,
  and it reports the error, unless the path of the description is none that the system takes.
* A listing ends well. It starts nothing, and the lines of its standard output are the names of the rules in their
  order, those of patterns marked.
* A build comes to an end exactly if its target reaches finitely many names. It then ends with status zero exactly if
  the target can be built from the files that it came upon, by the commands that did not fail in it; and if it ends
  with an error, that is reported under the heading of its innermost cause, with every dependency on the way, unless
  the host does not let so many calls be nested. Where files and commands stay as they are, there is a depth for which
  it ends with status zero exactly if they let the target be built. -/
theorem command_line_contract (hentered : o.directory.elim (.ok s) (h.enter · s) = .ok s') :
    (∀ settings arguments, understand h settings arguments s = .ok o → ∀ depth,
      run h settings depth arguments s = carryOut h depth o s ∧
      run h.recording settings depth arguments (s, []) = carryOut h.recording depth o (s, [])) ∧
    (∀ f, Description.load (h.read s') o.description = .error f →
      (∀ x, f = .crash x → h.read s' (Path.normalise o.description) = .error (.invalid x)) ∧
      ∀ depth, ∃ res, carryOut h.recording depth o (s, []) = some res ∧ res.state = (s', []) ∧
        standardOutput res.output = [] ∧ Fails res f) ∧
    ∀ d, Description.load (h.read s') o.description = .ok d →
      (o.listing = true → ∀ depth, ∃ res text, carryOut h.recording depth o (s, []) = some res ∧
        res.state = (s', []) ∧ res.exit = 0 ∧ res.crash = none ∧ standardOutput res.output = Utf8.encode text ∧
        text.lines = d.rulebook.rules.map Rule.label) ∧
      (o.listing = false →
        ((∃ depth res, carryOut h depth o s = some res) ↔
          {k | Relation.ReflTransGen d.rulebook.Needs o.target k}.Finite) ∧
        (∀ depth res, carryOut h depth o s = some res →
          ∃ outcome log, watch h depth o d.rulebook s' = some (outcome, log) ∧ Answers h res outcome ∧
            (res.exit = 0 ↔ d.rulebook.Buildable (Sight.isFile log) (Sight.succeeds log) o.target)) ∧
        ∀ (ok : τ → Prop) (isFile : Name → Bool) (succeeds : Name → Command → Bool),
          Steady h o.runner ok isFile succeeds → ok s' →
          ((∃ depth res, carryOut h depth o s = some res ∧ res.exit = 0) ↔
            d.rulebook.Buildable isFile succeeds o.target)) := by
  have hhere : ∀ depth, carryOut h depth o s = carryOutHere h depth o s' := carryOut_of_entered hentered
  have hrecording : ∀ depth, carryOut h.recording depth o (s, []) = carryOutHere h.recording depth o (s', []) :=
    carryOut_of_entered (h := h.recording) (entered_recording hentered)
  simp only [hhere, hrecording]
  refine ⟨?_, fun f hread => ⟨?_, ?_⟩, fun d hread => ⟨?_, fun hbuilding => ⟨?_, ?_, ?_⟩⟩⟩
  · intro settings arguments hunderstood depth
    have hunderstood' : understand h.recording settings arguments (s, []) = .ok o := hunderstood
    rw [run_of_understood hunderstood, run_of_understood hunderstood', hhere, hrecording]
    exact ⟨rfl, rfl⟩
  · rintro x rfl
    exact Description.load_crash hread
  · exact fun depth => refused_of_load (h := h.recording) (s := (s', [])) hread depth
  · exact fun hlisting depth => listed_of_load (h := h.recording) (s := (s', [])) hread hlisting depth
  · exact ends_iff_finite hread hbuilding
  · exact fun depth res hres => built_of_load hread hbuilding hres
  · exact fun ok isFile succeeds hsteady hs => succeeds_iff_of_steady hsteady hs hread hbuilding

/-- A failure two names below the target is reported with both of them if two calls may be nested, the listing of the
same description marks its pattern, and a description with a line at fault is not built. -/
theorem command_line_contract_nested :
    let host := { Host.holding (lit "all: b\n\tone\nb: c\n%.o:\n\ttwo\nc:\n\t@false\n") with nesting := some 2 }
    let faulty := Host.holding (lit "all:\n\tone\ntwo\n")
    (∃ res, run host {} 4 [] 0 = some res ∧ Fails res (.error (.dependencyFailed (lit "all") (lit "b")
      (.dependencyFailed (lit "b") (lit "c") (.commandFailed (lit "false") (some (lit "c")) (some 1) none))))) ∧
    (∃ res text, run host.recording {} 0 [lit "--list"] (0, []) = some res ∧ res.state = (0, []) ∧
      standardOutput res.output = Utf8.encode text ∧ text.lines = [lit "all", lit "b", lit "%.o (pattern)", lit "c"]) ∧
    ∃ res, run faulty.recording {} 0 [] (0, []) = some res ∧ res.state = (0, []) ∧ standardOutput res.output = [] ∧
      Fails res (.error (.malformed (lit "Makefile") 3 (lit "expected a target, variable or command line"))) := by
  intro host faulty
  let plain : Choices := { target := lit "all", description := lit "Makefile" }
  let listing : Choices := { plain with listing := true }
  have hplain : understand host {} [] 0 = .ok plain := by decide +kernel
  have hfaulty : understand faulty {} [] 0 = .ok plain := by decide +kernel
  have hlisting : understand host {} [lit "--list"] 0 = .ok listing := by decide +kernel
  let d : Description := { rulebook := ⟨[
    .ofName (lit "all") [lit "b"] [{ text := lit "one", line := some 2 }] 1, .ofName (lit "b") [lit "c"] [] 3,
    .ofName (lit "%.o") [] [{ text := lit "two", line := some 5 }] 4,
    .ofName (lit "c") [] [{ text := lit "false", silent := true, line := some 7 }] 6]⟩ }
  have hread : Description.load (host.read 0) plain.description = .ok d := by decide +kernel
  have hfault : Description.load (faulty.read 0) plain.description =
      .error (.error (.malformed (lit "Makefile") 3 (lit "expected a target, variable or command line"))) := by
    decide +kernel
  refine ⟨?_, ?_, ?_⟩
  · obtain ⟨hrun, -, hloaded⟩ := command_line_contract (h := host) (o := plain) (s := 0) rfl
    obtain ⟨-, hbuild, -⟩ := (hloaded d hread).2 rfl
    have hends : (run host {} 4 [] 0).isSome = true := by decide +kernel
    obtain ⟨res, hres⟩ := Option.isSome_iff_exists.1 hends
    obtain ⟨outcome, log, hwatch, hanswers, -⟩ := hbuild 4 res ((hrun _ _ hplain 4).1.symm.trans hres)
    let e : BuildError := .dependencyFailed (lit "all") (lit "b")
      (.dependencyFailed (lit "b") (lit "c") (.commandFailed (lit "false") (some (lit "c")) (some 1) none))
    have houtcome : (watch host 4 plain d.rulebook 0).map (·.1) = some (some (.error e)) := by decide +kernel
    have htold : host.told (.error e) = .error e := by decide +kernel
    rw [hwatch] at houtcome
    obtain rfl := Option.some.inj houtcome
    have hfails : Fails res (host.told (.error e)) := hanswers
    rw [htold] at hfails
    exact ⟨res, hres, hfails⟩
  · obtain ⟨hrun, -, hloaded⟩ := command_line_contract (h := host) (o := listing) (s := 0) rfl
    obtain ⟨res, text, hres, hstate, -, -, houtput, hlines⟩ := (hloaded d hread).1 rfl 0
    refine ⟨res, text, (hrun _ _ hlisting 0).2.trans hres, hstate, houtput, hlines.trans ?_⟩
    decide +kernel
  · obtain ⟨hrun, hrefused, -⟩ := command_line_contract (h := faulty) (o := plain) (s := 0) rfl
    obtain ⟨res, hres, hstate, houtput, hfails⟩ := (hrefused _ hfault).2 0
    exact ⟨res, (hrun _ _ hfaulty 0).2.trans hres, hstate, houtput, hfails⟩

/-- Nothing is written to standard error but what programs write there, debug lines and stack traces. -/
def silent (ws : List Write) : Bool := ws.all fun w => match w with
  | .err _ => false
  | _ => true

theorem Reports.not_silent {ws : List Write} {e : BuildError} (hreports : Reports ws e) : silent ws = false := by
  obtain ⟨before, after, rfl⟩ := hreports
  simp [silent]

/-- A run that crashed and wrote nothing of its own to standard error has reported no error. -/
theorem exists_silent {r : Option (Result τ)} {x : Crash}
    (hr : r.any (fun res => decide (res.exit = 1 ∧ res.crash = some x ∧ silent res.output = true)) = true) :
    ∃ res, r = some res ∧ res.exit = 1 ∧ res.crash = some x ∧ ∀ e, ¬ Reports res.output e := by
  obtain ⟨res, rfl, hres⟩ := (Option.any_eq_true _ _).1 hr
  obtain ⟨hexit, hcrash, houtput⟩ := of_decide_eq_true hres
  refine ⟨res, rfl, hexit, hcrash, fun e hreports => ?_⟩
  rw [hreports.not_silent] at houtput
  cases houtput

/-- So it is not the case that whatever stops a run is reported. The path of the first description holds the character
U+0000. The second build fails two names below its target, and only one call may be nested in another. -/
theorem command_line_silent :
    (∃ res, run Workspace.host {} 0 [lit "-f", lit "a\x00b"] {} = some res ∧ res.exit = 1 ∧
      res.crash = some .embeddedNul ∧ ∀ e, ¬ Reports res.output e) ∧
    ∃ res, run { Host.holding (lit "all: b\nb: c\nc:\n\tfalse\n") with nesting := some 1 } {} 4 [] 0 = some res ∧
      res.exit = 1 ∧ res.crash = some .nestedTooDeep ∧ ∀ e, ¬ Reports res.output e :=
  ⟨exists_silent (by decide +kernel), exists_silent (by decide +kernel)⟩

end CommandLine

end Buildfile
