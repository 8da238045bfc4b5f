import Buildfile.Build.Dependency
import Buildfile.Build.Nesting
import Buildfile.Build.Traversal
import Buildfile.Proofs.Projection
import Mathlib.Data.List.Find
import Mathlib.Data.List.Perm.Basic
/-!
# A build depends on the rules that it reaches

Two serial builds from the start are the same, from the outcome down to the order of the records, if every name that
the target reaches in one rulebook has the same dependencies and commands in the other, is a file in both, or is found
in neither (`Session.build_local`). Where the rules of other names stand does not matter, nor whether there are any, as
long as the pattern rules keep their order.
-/

namespace Buildfile

open Relation Build

variable {σ τ : Type} {b b' : Rulebook} {n k : Name} {p : Plan} {pattern : Option Name}

namespace Build

/-! ## Two sites with the same answers -/

theorem Resolution.of_bare_eq {r r' : Resolution} (h : r.bare = r'.bare) :
    (∃ p pattern pattern', r = .planned p pattern ∧ r' = .planned p pattern') ∨
      (r = .present ∧ r' = .present) ∨ (r = .missing ∧ r' = .missing) := by
  cases r with
  | planned p pattern =>
    cases r' with
    | planned p' pattern' =>
      cases h
      exact .inl ⟨p, pattern, pattern', rfl, rfl⟩
    | present | missing => cases h
  | present =>
    cases r' with
    | present => exact .inr (.inl ⟨rfl, rfl⟩)
    | planned | missing => cases h
  | missing =>
    cases r' with
    | missing => exact .inr (.inr ⟨rfl, rfl⟩)
    | planned | present => cases h

/-- The two sites perform alike and take no notes, and they resolve these names in the same way, up to the pattern rule
that is said to be used. The names include all dependencies of the names. -/
structure Site.Alike (site site' : Site σ) (names : Set Name) : Prop where
  resolve {w : σ} {k : Name} : k ∈ names → (site.resolve w k).bare = (site'.resolve w k).bare
  closed {w : σ} {k : Name} {p : Plan} {pattern : Option Name} : k ∈ names → site.resolve w k = .planned p pattern →
    ∀ d ∈ p.dependencies, d ∈ names
  perform (n : Name) (c : Command) (w : σ) : site.perform n c w = site'.perform n c w
  quiet (k : Note) (w : σ) : site.note k w = w
  quiet' (k : Note) (w : σ) : site'.note k w = w

namespace Session

variable {site site' : Site σ} {names : Set Name} {visit visit' : Visit σ} {s : Session σ}

theorem note_of_quiet (h : ∀ (k : Note) (w : σ), site.note k w = w) (s : Session σ) (k : Note) : s.note site k = s := by
  rw [note, h]

theorem elim_note_of_quiet (h : ∀ (k : Note) (w : σ), site.note k w = w) (s : Session σ) (k : Option Note) :
    k.elim s (s.note site) = s := by
  cases k with
  | none => rfl
  | some k => exact note_of_quiet h s k

theorem run_alike (h : site.Alike site' names) (commands : List Command) (s : Session σ) :
    s.run site n commands = s.run site' n commands := by
  induction commands generalizing s with
  | nil => rfl
  | cons c commands ih =>
    rw [run, run, h.perform]
    rcases site'.perform n c s.world with ⟨_ | f, w⟩
    · exact ih _
    · rfl

theorem conclude_alike (h : site.Alike site' names) (commands : List Command) (o : Outcome) (s : Session σ) :
    s.conclude site n commands o = s.conclude site' n commands o := by
  cases o with
  | some f => rfl
  | none =>
    unfold conclude
    dsimp only
    rw [run_alike h]
    rcases s.run site' n commands with ⟨_ | f, t⟩
    · dsimp only
      rw [note_of_quiet h.quiet, note_of_quiet h.quiet']
    · rfl

theorem carryOut_alike (h : site.Alike site' names) (hv : ∀ d ∈ p.dependencies, ∀ t, visit d t = visit' d t)
    (s : Session σ) : carryOut site visit n p s = carryOut site' visit' n p s := by
  unfold carryOut
  dsimp only
  -- the commands come to the same once the visits do
  rw [visitAll_congr (f := visit) (g := visit')]
  · congr 1
    funext r
    exact conclude_alike h p.commands _ _
  · intro before d after os t hsplit _
    exact hv d (by rw [hsplit]; simp) t

theorem build_alike (h : site.Alike site' names) (hn : n ∈ names) (hv : ∀ d ∈ names, ∀ t, visit d t = visit' d t)
    (s : Session σ) : build site visit n s = build site' visit' n s := by
  have hsame := h.resolve (w := s.world) hn
  unfold build
  dsimp only
  rw [elim_note_of_quiet h.quiet, elim_note_of_quiet h.quiet']
  rcases Resolution.of_bare_eq hsame with ⟨p, pattern, pattern', hr, hr'⟩ | ⟨hr, hr'⟩ | ⟨hr, hr'⟩
  · rw [hr, hr']
    exact carryOut_alike h (fun d hd => hv d (h.closed hn hr d hd)) s
  · rw [hr, hr']
  · rw [hr, hr']

/-- Visits at the two sites are the same, to whatever depth, and end or fail to end together. -/
theorem visit_alike (h : site.Alike site' names) (depth : Nat) (ancestors : List Name) (hn : n ∈ names)
    (s : Session σ) : Session.visit site depth ancestors n s = Session.visit site' depth ancestors n s := by
  induction depth generalizing ancestors n s with
  | zero => rfl
  | succ depth ih =>
    rw [Session.visit, Session.visit]
    cases s.ledger.admission n ancestors with
    | refuse e => rfl
    | join =>
      dsimp only
      rw [note_of_quiet h.quiet, note_of_quiet h.quiet']
    | own =>
      dsimp only
      rw [build_alike h hn fun d hd t => ih (ancestors ++ [n]) hd t]

end Session

end Build

/-! ## Rulebooks that answer alike -/

namespace Rulebook

theorem resolve_congr {isFile : Name → Bool} (hget : b.get? n = b'.get? n) (hmatch : b.match? n = b'.match? n) :
    resolve b isFile n = resolve b' isFile n := by
  unfold resolve
  rw [hget, hmatch]

theorem match?_congr (h : b.patterns = b'.patterns) : b.match? n = b'.match? n := by
  unfold match?
  rw [h]

/-- Rules with distinct names are found under their names in whatever order they stand. -/
theorem get?_of_perm (hnames : b.names.Nodup) (hperm : b.rules.Perm b'.rules) (n : Name) : b.get? n = b'.get? n := by
  have hnames' : b'.names.Nodup := (hperm.map _).nodup_iff.1 hnames
  -- under distinct names, to be found is to be in the list
  refine Option.ext fun r => ?_
  rw [get?_eq_some hnames, get?_eq_some hnames', hperm.mem_iff]

/-- Leaving out rules of other names changes no look-up. -/
theorem get?_of_filter {keep : Rule → Bool} (h : ∀ r ∈ b.rules, keep r = false → r.name ≠ n) :
    (Rulebook.mk (b.rules.filter keep)).get? n = b.get? n := by
  unfold get?
  rw [List.find?_filter]
  refine List.find?_congr ?_
  intro r hr
  cases hk : keep r with
  | true => simp
  | false => simp [h r hr hk]

theorem patterns_of_filter {keep : Rule → Bool} (h : ∀ r ∈ b.rules, keep r = false → r.pattern = false) :
    (Rulebook.mk (b.rules.filter keep)).patterns = b.patterns := by
  unfold patterns
  rw [List.filter_filter]
  refine List.filter_congr ?_
  intro r hr
  cases hk : keep r with
  | true => simp
  | false => simp [h r hr hk]

/-- A rule that is added under another name changes no look-up. -/
theorem get?_addAll_of_ne {rs : List Rule} (h : ∀ r ∈ rs, r.name ≠ n) : (b.addAll rs).get? n = b.get? n := by
  induction rs generalizing b with
  | nil => rfl
  | cons r rs ih =>
    have hr : n ≠ r.name := Ne.symm (h r List.mem_cons_self)
    change ((b.add r).addAll rs).get? n = b.get? n
    rw [ih fun s hs => h s (List.mem_cons_of_mem _ hs), get?_add, if_neg hr]

theorem patterns_add {r : Rule} (hr : r.pattern = false) (h : ∀ s ∈ b.patterns, s.name ≠ r.name) :
    (b.add r).patterns = b.patterns := by
  have hkeep : (Rulebook.mk (b.rules.filter (·.name ≠ r.name))).patterns = b.patterns := by
    refine patterns_of_filter ?_
    intro s hs hname
    by_contra hp
    have hmem : s ∈ b.patterns := List.mem_filter.2 ⟨hs, by simpa using hp⟩
    exact h s hmem (by simpa using hname)
  rw [← hkeep]
  unfold add patterns
  rw [List.filter_append]
  simp [hr]

/-- Explicit rules that replace no pattern rule leave the pattern rules as they are. -/
theorem patterns_addAll {rs : List Rule} (hrs : ∀ r ∈ rs, r.pattern = false)
    (h : ∀ r ∈ rs, ∀ s ∈ b.patterns, s.name ≠ r.name) : (b.addAll rs).patterns = b.patterns := by
  induction rs generalizing b with
  | nil => rfl
  | cons r rs ih =>
    have hfirst := patterns_add (hrs r List.mem_cons_self) (h r List.mem_cons_self)
    have hrest := ih (b := b.add r) (fun s hs => hrs s (List.mem_cons_of_mem _ hs)) ?_
    · exact hrest.trans hfirst
    · rw [hfirst]
      exact fun s hs => h s (List.mem_cons_of_mem _ hs)

end Rulebook

/-! ## Builds from the start -/

namespace Build

open Session

variable {isFile isFile' : σ → Name → Bool} {perform : Name → Command → σ → Outcome × σ}

/-- What a target reaches is closed under dependencies. -/
theorem Site.alike_over (h : ∀ k, ReflTransGen b.Needs n k → ∀ w,
    (Build.resolve b (isFile w) k).bare = (Build.resolve b' (isFile' w) k).bare) :
    (Site.over b isFile perform).Alike (.over b' isFile' perform) {k | ReflTransGen b.Needs n k} where
  resolve hk := h _ hk _
  closed hk hr _ hd := .tail hk (Rulebook.needs_of_plan? (Rulebook.plan?_of_resolve hr) hd)
  perform _ _ _ := rfl
  quiet _ _ := rfl
  quiet' _ _ := rfl

theorem Session.execute_of_resolve (h : ∀ k, ReflTransGen b.Needs n k → ∀ w,
    (resolve b (isFile w) k).bare = (resolve b' (isFile' w) k).bare) (depth : Nat) (w : σ) :
    execute (.over b isFile perform) depth n { world := w } =
      execute (.over b' isFile' perform) depth n { world := w } :=
  visit_alike (Site.alike_over h) depth [] .refl _

/-- Sites that keep more, such as the notes that are taken, see the same of two builds that are the same. -/
theorem Session.execute_of_projects {f : τ → σ} {site site' : Site τ} {site₀ site₀' : Site σ}
    (h : site.Projects f site₀) (h' : site'.Projects f site₀') {depth : Nat} {w : τ}
    (hsame : execute site₀ depth n { world := f w } = execute site₀' depth n { world := f w }) :
    (execute site depth n { world := w }).map (mapEnd f) = (execute site' depth n { world := w }).map (mapEnd f) := by
  rw [← execute_map h, ← execute_map h']
  exact hsame

/-- What a build of the program does to its host is what the build does that takes no notes. -/
theorem projects_over (h : Host τ) (r : Runner) (b : Rulebook) :
    (CommandLine.site h r b).Projects CommandLine.Scene.state (.over b (fun s n => h.kind s n ≠ .absent)
      fun n c s => ((r.run h c (some n) s).outcome, (r.run h c (some n) s).state)) :=
  ⟨fun _ _ => rfl, fun _ _ _ => rfl, fun _ _ => rfl⟩

/-- A serial build from the start, with files that may come and go and commands that may do anything:

* it is the same by another rulebook and with other files, if those give the same answer for every name that the target
  reaches: the same dependencies and commands, a file, or nothing;
* it is the same if the rules stand in another order, with the pattern rules in the same order among themselves;
* it is the same if explicit rules are added that replace no pattern rule and whose names the target does not reach;
* it is the same if explicit rules are left out whose names the target does not reach.

The same are whether it ends at some depth, its outcome, the commands in their order, and all records. A build of the
program is one that takes notes: by rulebooks that give the same answers it is the same in all of this, and in what it
leaves of its host. -/
theorem Session.build_local (perform : Name → Command → σ → Outcome × σ) :
    (∀ (b b' : Rulebook) (isFile isFile' : σ → Name → Bool) (n : Name),
      (∀ k, ReflTransGen b.Needs n k → ∀ w, (resolve b (isFile w) k).bare = (resolve b' (isFile' w) k).bare) →
      ∀ depth w, execute (.over b isFile perform) depth n { world := w } =
        execute (.over b' isFile' perform) depth n { world := w }) ∧
    (∀ (b b' : Rulebook) (isFile : σ → Name → Bool) (n : Name), b.names.Nodup → b.rules.Perm b'.rules →
      b.patterns = b'.patterns → ∀ depth w, execute (.over b isFile perform) depth n { world := w } =
        execute (.over b' isFile perform) depth n { world := w }) ∧
    (∀ (b : Rulebook) (added : List Rule) (isFile : σ → Name → Bool) (n : Name),
      (∀ r ∈ added, r.pattern = false ∧ (∀ s ∈ b.patterns, s.name ≠ r.name) ∧ ¬ ReflTransGen b.Needs n r.name) →
      ∀ depth w, execute (.over b isFile perform) depth n { world := w } =
        execute (.over (b.addAll added) isFile perform) depth n { world := w }) ∧
    (∀ (b : Rulebook) (keep : Rule → Bool) (isFile : σ → Name → Bool) (n : Name),
      (∀ r ∈ b.rules, keep r = false → r.pattern = false ∧ ¬ ReflTransGen b.Needs n r.name) →
      ∀ depth w, execute (.over b isFile perform) depth n { world := w } =
        execute (.over ⟨b.rules.filter keep⟩ isFile perform) depth n { world := w }) ∧
    ∀ {τ : Type} (h : Host τ) (r : Runner) (b b' : Rulebook) (n : Name),
      (∀ k, ReflTransGen b.Needs n k → ∀ s, (resolve b (fun m => h.kind s m ≠ .absent) k).bare =
        (resolve b' (fun m => h.kind s m ≠ .absent) k).bare) →
      ∀ depth scene,
        (execute (CommandLine.site h r b) depth n { world := scene }).map (mapEnd CommandLine.Scene.state) =
          (execute (CommandLine.site h r b') depth n { world := scene }).map (mapEnd CommandLine.Scene.state) := by
  refine ⟨?_, ?_, ?_, ?_, ?_⟩
  · intro b b' isFile isFile' n h depth w
    exact execute_of_resolve h depth w
  · intro b b' isFile n hnames hperm hpatterns depth w
    refine execute_of_resolve ?_ depth w
    intro k _ w
    rw [Rulebook.resolve_congr (Rulebook.get?_of_perm hnames hperm k) (Rulebook.match?_congr hpatterns)]
  · intro b added isFile n h depth w
    refine execute_of_resolve ?_ depth w
    intro k hk w
    -- a name that is reached has its old rule, for it is none of the added names
    have hget : (b.addAll added).get? k = b.get? k :=
      Rulebook.get?_addAll_of_ne fun r hr hname => (h r hr).2.2 (hname ▸ hk)
    have hpatterns := Rulebook.patterns_addAll (fun r hr => (h r hr).1) fun r hr => (h r hr).2.1
    rw [Rulebook.resolve_congr hget (Rulebook.match?_congr hpatterns)]
  · intro b keep isFile n h depth w
    refine execute_of_resolve ?_ depth w
    intro k hk w
    have hget : (Rulebook.mk (b.rules.filter keep)).get? k = b.get? k :=
      Rulebook.get?_of_filter fun r hr hdrop hname => (h r hr hdrop).2 (hname ▸ hk)
    have hpatterns := Rulebook.patterns_of_filter fun r hr hdrop => (h r hr hdrop).1
    rw [Rulebook.resolve_congr hget (Rulebook.match?_congr hpatterns)]
  · intro τ h r b b' n hsame depth scene
    exact execute_of_projects (projects_over h r b) (projects_over h r b') (execute_of_resolve hsame depth scene.state)

/-- The target reaches two names. Its rules are turned round, others are added and left out, and the pattern rule gives
way to one for the only name that it is used for. -/
theorem Session.build_local_moved : ∃ (b b' b'' : Rulebook) (perform : Name → Command → Nat → Outcome × Nat)
    (isFile : Nat → Name → Bool) (r : Outcome × Session Nat),
    execute (.over b isFile perform) 3 (lit "all") { world := 0 } = some r ∧
    r.2.ran = [(lit "a.o", { text := lit "cc" }), (lit "all", { text := lit "ld" })] ∧
    execute (.over b' isFile perform) 3 (lit "all") { world := 0 } = some r ∧
    execute (.over b'' isFile perform) 3 (lit "all") { world := 0 } = some r ∧
    execute (.over (b.addAll [{ name := lit "more", dependencies := [lit "all"] }]) isFile perform) 3 (lit "all")
      { world := 0 } = some r ∧
    execute (.over ⟨b.rules.filter (·.name ≠ lit "notes")⟩ isFile perform) 3 (lit "all") { world := 0 } = some r := by
  let notes : Rule := { name := lit "notes", commands := [{ text := lit "print" }] }
  let objects : Rule := Rule.ofName (lit "%.o") [lit "%.c"] [{ text := lit "cc" }] 1
  let all : Rule := { name := lit "all", dependencies := [lit "a.o"], commands := [{ text := lit "ld" }] }
  let b : Rulebook := ⟨[notes, objects, all]⟩
  let b' : Rulebook := ⟨[all, objects, notes]⟩
  let b'' : Rulebook := ⟨[all, { name := lit "a.o", dependencies := [lit "a.c"], commands := [{ text := lit "cc" }] }]⟩
  let perform : Name → Command → Nat → Outcome × Nat := fun _ _ w => (none, w + 1)
  let source : Name → Bool := fun n => n = lit "a.c"
  have hclosed : ∀ k ∈ [lit "all", lit "a.o", lit "a.c"], ∀ d ∈ b.dependenciesFor k,
      d ∈ [lit "all", lit "a.o", lit "a.c"] := by decide +kernel
  have hreached : ∀ k, ReflTransGen b.Needs (lit "all") k → k ∈ [lit "all", lit "a.o", lit "a.c"] := fun k hk =>
    Rulebook.mem_of_closed List.mem_cons_self hclosed hk
  have hsame : ∀ k ∈ [lit "all", lit "a.o", lit "a.c"], (resolve b source k).bare = (resolve b'' source k).bare := by
    decide +kernel
  have hmore : lit "more" ∉ [lit "all", lit "a.o", lit "a.c"] := by decide +kernel
  have hnotes : lit "notes" ∉ [lit "all", lit "a.o", lit "a.c"] := by decide +kernel
  have hdropped : ∀ r ∈ b.rules, decide (r.name ≠ lit "notes") = false → r.pattern = false ∧ r.name = lit "notes" := by
    decide +kernel
  obtain ⟨hgeneral, hperm, hadd, hremove, -⟩ := build_local perform
  let r := (execute (.over b (fun _ => source) perform) 3 (lit "all") { world := 0 }).get (by decide +kernel)
  have hr : execute (.over b (fun _ => source) perform) 3 (lit "all") { world := 0 } = some r :=
    (Option.some_get _).symm
  refine ⟨b, b', b'', perform, fun _ => source, r, hr, by decide +kernel, ?_, ?_, ?_, ?_⟩
  · rw [← hr]
    exact (hperm b b' _ _ (by decide +kernel) (by decide +kernel) (by decide +kernel) 3 0).symm
  · rw [← hr]
    exact (hgeneral b b'' _ _ _ (fun k hk _ => hsame k (hreached k hk)) 3 0).symm
  · rw [← hr]
    refine (hadd b [{ name := lit "more", dependencies := [lit "all"] }] _ _ ?_ 3 0).symm
    intro added hmem
    obtain rfl := List.mem_singleton.1 hmem
    exact ⟨rfl, by decide +kernel, fun hk => hmore (hreached _ hk)⟩
  · rw [← hr]
    refine (hremove b _ _ _ ?_ 3 0).symm
    intro dropped hmem hdrop
    obtain ⟨hpattern, hname⟩ := hdropped dropped hmem hdrop
    exact ⟨hpattern, fun hk => hnotes (hname ▸ hreached _ hk)⟩

/-- An explicit rule takes the place of a pattern rule of its name, so it need not be reached to make a build another
one: what was built by the pattern is not found any more. -/
theorem Session.build_replaced :
    let objects := Rule.ofName (lit "%.o") [] [{ text := lit "cc" }] 1
    let explicit : Rule := { name := lit "%.o" }
    (¬ ∀ (b : Rulebook) (added : List Rule) (isFile : Unit → Name → Bool)
      (perform : Name → Command → Unit → Outcome × Unit) (n : Name),
      (∀ r ∈ added, r.pattern = false ∧ ¬ ReflTransGen b.Needs n r.name) →
      ∀ depth w, execute (.over b isFile perform) depth n { world := w } =
        execute (.over (b.addAll added) isFile perform) depth n { world := w }) ∧
    (Rulebook.mk [objects]).match? (lit "a.o") = some objects ∧
    ((Rulebook.mk [objects]).addAll [explicit]).match? (lit "a.o") = none := by
  intro objects explicit
  refine ⟨fun h => ?_, by decide +kernel, by decide +kernel⟩
  let b : Rulebook := ⟨[objects, { name := lit "all", dependencies := [lit "a.o"] }]⟩
  let perform : Name → Command → Unit → Outcome × Unit := fun _ _ w => (none, w)
  have hclosed : ∀ k ∈ [lit "all", lit "a.o"], ∀ d ∈ b.dependenciesFor k, d ∈ [lit "all", lit "a.o"] := by
    decide +kernel
  have hunreached : ¬ ReflTransGen b.Needs (lit "all") explicit.name := fun hk =>
    absurd (Rulebook.mem_of_closed List.mem_cons_self hclosed hk) (by decide +kernel)
  have hsame := h b [explicit] (fun _ _ => false) perform (lit "all")
    (fun r hr => List.mem_singleton.1 hr ▸ ⟨rfl, hunreached⟩) 3 ()
  have hbuilt : (execute (.over b (fun _ _ => false) perform) 3 (lit "all") { world := () }).map (·.1) = some none := by
    decide +kernel
  have hfailed : (execute (.over (b.addAll [explicit]) (fun _ _ => false) perform) 3 (lit "all")
      { world := () }).map (·.1) =
        some (some (.error (.dependencyFailed (lit "all") (lit "a.o") (.unknownTarget (lit "a.o"))))) := by
    decide +kernel
  rw [hsame, hfailed] at hbuilt
  cases hbuilt

end Build

end Buildfile
