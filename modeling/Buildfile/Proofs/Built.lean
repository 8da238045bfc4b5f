import Buildfile.Build.Run
import Buildfile.Build.Dependency
import Mathlib.Tactic.Choose
/-!
# How a name can end

`Terms` fix the rules, and leave open to any degree which files there are and how commands end.
`Terms.Built` derives, from the terms alone, how a name can end and which commands are started for
it on the way. Nothing in it depends on the order in which names are built; only whether a request
is refused for a cycle does, and a refusal is never derived without a cycle to show for it.

Two consequences carry the theorems about runs. When the terms say which commands succeed, a name
ends well exactly if it is buildable (`Built.decided`). When they say how each command ends, a
name that reaches no cycle ends in one way only (`Built.unique`).
-/

namespace Buildfile.Build

open Relation

/-- What holds throughout a build. -/
structure Terms where
  /-- The rules, which do not change. -/
  rulebook : Rulebook
  /-- Whether a name may be a file, and whether it may not be one. -/
  isFile : Name → Bool → Prop
  /-- How a command may end. -/
  performs : Name → Command → Outcome → Prop

namespace Terms

/-- A site keeps to the terms in one of its states. -/
structure Hold {σ : Type} (t : Terms) (site : Site σ) (w : σ) : Prop where
  resolves : ∃ isFile, (∀ n, t.isFile n (isFile n)) ∧ ∀ n, site.resolve w n = resolve t.rulebook isFile n
  performs (n : Name) (c : Command) : t.performs n c (site.perform n c w).1

variable {t : Terms} {n : Name} {o : Outcome} {ran : List Command}

theorem Hold.follows {σ : Type} {site : Site σ} {w : σ} (h : t.Hold site w) : site.Follows t.rulebook w := by
  obtain ⟨isFile, -, hres⟩ := h.resolves
  exact ⟨isFile, hres⟩

/-- This is how a request ends that is refused for a cycle. -/
def Refused (t : Terms) (n : Name) (o : Outcome) : Prop :=
  ∃ chain, t.rulebook.Cycle n chain ∧ o = some (.error (.circular n chain))

/-- The commands of `n` may end with this outcome, after these of them were started. -/
inductive Runs (t : Terms) (n : Name) : List Command → Outcome → List Command → Prop
  | nil : Runs t n [] none []
  | pass {c : Command} {cs ran : List Command} {o : Outcome} : t.performs n c none → Runs t n cs o ran →
      Runs t n (c :: cs) o (c :: ran)
  | fail {c : Command} {cs : List Command} {f : Failure} : t.performs n c (some f) →
      Runs t n (c :: cs) (some f) [c]

/-- The end of `n` once its dependencies ended with the first outcome: the second, after these of its
commands were started. -/
def Concludes (t : Terms) (n : Name) (commands : List Command) : Outcome → Outcome → List Command → Prop
  | some f, o, ran => o = some f ∧ ran = []
  | none, o, ran => t.Runs n commands o ran

/-- The owner of `n` may end with this outcome, after it has started these commands. -/
inductive Built (t : Terms) : Name → Outcome → List Command → Prop
  | present {n : Name} : t.rulebook.plan? n = none → t.isFile n true → Built t n none []
  | missing {n : Name} : t.rulebook.plan? n = none → t.isFile n false →
      Built t n (some (.error (.unknownTarget n))) []
  | planned {n : Name} {p : Plan} {os : List (Name × Outcome)} {runs : Name × Outcome → List Command}
      {o : Outcome} {ran : List Command} : t.rulebook.plan? n = some p → os.map (·.1) = p.dependencies →
      (∀ a ∈ os, ¬ t.Refused a.1 a.2 → Built t a.1 a.2 (runs a)) →
      t.Concludes n p.commands (blame n os) o ran → Built t n o ran

/-- A request for `n` may end with this outcome. -/
def Answers (t : Terms) (n : Name) (o : Outcome) : Prop := t.Refused n o ∨ ∃ ran, t.Built n o ran

/-- The requests that `n` makes by its plan may end so that this is their blame. -/
def Gathers (t : Terms) (n : Name) (p : Plan) (o : Outcome) : Prop :=
  ∃ os : List (Name × Outcome), os.map (·.1) = p.dependencies ∧ (∀ a ∈ os, t.Answers a.1 a.2) ∧ blame n os = o

theorem Gathers.built {p : Plan} {b : Outcome} (hp : t.rulebook.plan? n = some p) (h : t.Gathers n p b)
    (hc : t.Concludes n p.commands b o ran) : t.Built n o ran := by
  obtain ⟨os, hos, ha, rfl⟩ := h
  have hbuilt : ∀ a, a ∈ os → ¬ t.Refused a.1 a.2 → ∃ ran, t.Built a.1 a.2 ran := fun a hm hr =>
    (ha a hm).resolve_left hr
  -- each dependency brings the commands that were started for it
  choose! runs hruns using hbuilt
  exact .planned hp hos hruns hc

/-- Commands that have passed may stand before any that are still to run. -/
theorem Runs.append {passed cs : List Command} (hpassed : ∀ c ∈ passed, t.performs n c none)
    (h : t.Runs n cs o ran) : t.Runs n (passed ++ cs) o (passed ++ ran) := by
  induction passed with
  | nil => exact h
  | cons c passed ih => exact .pass (hpassed c (by simp)) (ih fun c hc => hpassed c (by simp [hc]))

/-- A name that ends well is buildable as soon as files are there and commands succeed. -/
theorem Built.buildable (h : t.Built n none ran) :
    t.rulebook.Buildable (fun _ => true) (fun _ _ => true) n := by
  generalize ho : (none : Outcome) = o at h
  induction h with
  | present hp => exact (Rulebook.buildable_iff_of_plan?_eq_none hp).2 rfl
  | missing => cases ho
  | @planned n p os runs o ran hp hos hb hc ih =>
    subst ho
    have hnone : blame n os = none := by
      cases hbl : blame n os with
      | none => rfl
      | some f =>
        rw [hbl] at hc
        cases hc.1
    refine (Rulebook.buildable_iff_of_plan? hp).2 ⟨fun d hd => ?_, fun _ _ => rfl⟩
    rw [← hos, List.mem_map] at hd
    obtain ⟨a, hm, rfl⟩ := hd
    have ha : a.2 = none := (blame_eq_none_iff n os).1 hnone a hm
    refine ih a hm ?_ ha.symm
    rintro ⟨chain, -, he⟩
    rw [ha] at he
    cases he

/-! ## When it is known which commands succeed -/

/-- The terms say which names are files and which commands succeed. -/
structure Decides (t : Terms) (isFile : Name → Bool) (succeeds : Name → Command → Bool) : Prop where
  isFile_eq {n : Name} {v : Bool} : t.isFile n v → isFile n = v
  performs_iff {n : Name} {c : Command} {o : Outcome} : t.performs n c o → (o = none ↔ succeeds n c = true)

section Decides
variable {isFile : Name → Bool} {succeeds : Name → Command → Bool}

theorem Runs.eq_attempted (ht : t.Decides isFile succeeds) {cs : List Command} (h : t.Runs n cs o ran) :
    (o = none ↔ ∀ c ∈ cs, succeeds n c = true) ∧ ran = Rulebook.attempted (succeeds n) cs := by
  induction h with
  | nil => simp [Rulebook.attempted]
  | pass hc _ ih =>
    have hs := (ht.performs_iff hc).1 rfl
    simp [Rulebook.attempted, hs, ih.1, ← ih.2]
  | fail hc =>
    have hs := (ht.performs_iff hc).not.1 (Option.some_ne_none _)
    simp [Rulebook.attempted, hs]

/-- A dependency that was blamed cannot be built. -/
theorem exists_of_blame {p : Plan} {os : List (Name × Outcome)} {f : Failure}
    (hos : os.map (·.1) = p.dependencies)
    (ha : ∀ a ∈ os, ¬ t.Refused a.1 a.2 → (a.2 = none ↔ t.rulebook.Buildable isFile succeeds a.1))
    (hb : blame n os = some f) : ∃ d ∈ p.dependencies, ¬ t.rulebook.Buildable isFile succeeds d := by
  have hfailed : ¬ ∀ a ∈ os, a.2 = none := fun hall => by
    rw [(blame_eq_none_iff n os).2 hall] at hb
    cases hb
  push Not at hfailed
  obtain ⟨a, hmem, hne⟩ := hfailed
  refine ⟨a.1, hos ▸ List.mem_map_of_mem hmem, fun hbuild => ?_⟩
  by_cases hr : t.Refused a.1 a.2
  · -- it was refused instead, and so it is on a cycle
    obtain ⟨chain, hchain, -⟩ := hr
    exact hbuild.not_transGen hchain.transGen
  · exact hne ((ha a hmem hr).2 hbuild)

/-- A name ends well exactly if it can be built. If all it needs can be built, its commands are
started up to the first that fails; otherwise none is. -/
theorem Built.decided (ht : t.Decides isFile succeeds) (h : t.Built n o ran) :
    (o = none ↔ t.rulebook.Buildable isFile succeeds n) ∧
    ((∃ d, t.rulebook.Needs n d ∧ ¬ t.rulebook.Buildable isFile succeeds d) → ran = []) ∧
    ((∀ d, t.rulebook.Needs n d → t.rulebook.Buildable isFile succeeds d) →
      ran = Rulebook.attempted (succeeds n) (t.rulebook.commandsFor n)) := by
  induction h with
  | @present n hp hf =>
    refine ⟨?_, fun _ => rfl, fun _ => ?_⟩
    · rw [Rulebook.buildable_iff_of_plan?_eq_none hp, ht.isFile_eq hf]
      simp
    · rw [Rulebook.commandsFor_of_plan?_eq_none hp]
      rfl
  | @missing n hp hf =>
    refine ⟨?_, fun _ => rfl, fun _ => ?_⟩
    · rw [Rulebook.buildable_iff_of_plan?_eq_none hp, ht.isFile_eq hf]
      simp
    · rw [Rulebook.commandsFor_of_plan?_eq_none hp]
      rfl
  | @planned n p os runs o ran hp hos _ hc ih =>
    simp only [Rulebook.buildable_iff_of_plan? hp, Rulebook.needs_iff_of_plan? hp,
      Rulebook.commandsFor_of_plan? hp]
    cases hb : blame n os with
    | some f =>
      obtain ⟨d, hd, hnot⟩ := exists_of_blame hos (fun a hm hr => (ih a hm hr).1) hb
      rw [hb] at hc
      obtain ⟨rfl, rfl⟩ := hc
      refine ⟨?_, fun _ => rfl, fun hall => absurd (hall d hd) hnot⟩
      exact ⟨nofun, fun hall => absurd (hall.1 d hd) hnot⟩
    | none =>
      have hall : ∀ d ∈ p.dependencies, t.rulebook.Buildable isFile succeeds d := by
        intro d hd
        rw [← hos, List.mem_map] at hd
        obtain ⟨a, hm, rfl⟩ := hd
        have hnone := (blame_eq_none_iff n os).1 hb a hm
        -- a refusal is a failure, and nothing was blamed
        have hr : ¬ t.Refused a.1 a.2 := by
          rintro ⟨chain, -, ha⟩
          rw [hnone] at ha
          cases ha
        exact (ih a hm hr).1.1 hnone
      rw [hb] at hc
      obtain ⟨ho, hran⟩ := Runs.eq_attempted ht hc
      refine ⟨?_, ?_, fun _ => hran⟩
      · rw [ho]
        exact ⟨fun hs => ⟨hall, hs⟩, fun hs => hs.2⟩
      · rintro ⟨d, hd, hnot⟩
        exact absurd (hall d hd) hnot

/-- A name that ends well has run all its commands. -/
theorem Built.ran_of_none (ht : t.Decides isFile succeeds) (h : t.Built n none ran) :
    ran = t.rulebook.commandsFor n := by
  obtain ⟨hbuild, -, hran⟩ := h.decided ht
  have hn := hbuild.1 rfl
  rw [hran fun d hd => hn.of_needs hd]
  cases hp : t.rulebook.plan? n with
  | none =>
    rw [Rulebook.commandsFor_of_plan?_eq_none hp]
    rfl
  | some p =>
    rw [Rulebook.commandsFor_of_plan? hp]
    exact Rulebook.attempted_eq_self ((Rulebook.buildable_iff_of_plan? hp).1 hn).2

end Decides

/-! ## When it is known how each command ends -/

/-- The terms say which names are files and how each command ends. -/
structure Fixed (t : Terms) : Prop where
  isFile_unique {n : Name} {v v' : Bool} : t.isFile n v → t.isFile n v' → v = v'
  performs_unique {n : Name} {c : Command} {o o' : Outcome} : t.performs n c o → t.performs n c o' → o = o'

section Fixed
variable {o' : Outcome} {ran' : List Command}

theorem Runs.unique (ht : t.Fixed) {cs : List Command} (h : t.Runs n cs o ran) (h' : t.Runs n cs o' ran') :
    o = o' ∧ ran = ran' := by
  induction h generalizing ran' with
  | nil =>
    cases h'
    exact ⟨rfl, rfl⟩
  | pass hc _ ih =>
    cases h' with
    | pass _ h' =>
      obtain ⟨rfl, rfl⟩ := ih h'
      exact ⟨rfl, rfl⟩
    | fail hc' => cases ht.performs_unique hc hc'
  | fail hc =>
    cases h' with
    | pass hc' _ => cases ht.performs_unique hc hc'
    | fail hc' => exact ⟨ht.performs_unique hc hc', rfl⟩

theorem Concludes.unique (ht : t.Fixed) {cs : List Command} {b : Outcome} (h : t.Concludes n cs b o ran)
    (h' : t.Concludes n cs b o' ran') : o = o' ∧ ran = ran' := by
  cases b with
  | none => exact Runs.unique ht h h'
  | some f =>
    obtain ⟨rfl, rfl⟩ := h
    obtain ⟨rfl, rfl⟩ := h'
    exact ⟨rfl, rfl⟩

/-- Two lists of outcomes of the same names are equal if they agree on each name. -/
theorem eq_of_map_fst_eq {os os' : List (Name × Outcome)} (h : os.map (·.1) = os'.map (·.1))
    (hsame : ∀ n o o', (n, o) ∈ os → (n, o') ∈ os' → o = o') : os = os' := by
  induction os generalizing os' with
  | nil => simpa using h.symm
  | cons a os ih =>
    cases os' with
    | nil => simp at h
    | cons a' os' =>
      rw [List.map_cons, List.map_cons, List.cons.injEq] at h
      have ho : a.2 = a'.2 := hsame a.1 a.2 a'.2 List.mem_cons_self (h.1 ▸ List.mem_cons_self)
      have hos : os = os' := ih h.2 fun n o o' hm hm' =>
        hsame n o o' (List.mem_cons_of_mem _ hm) (List.mem_cons_of_mem _ hm')
      rw [Prod.ext h.1 ho, hos]

/-- A name that reaches no cycle ends in one way only. -/
theorem Built.unique (ht : t.Fixed)
    (hacyclic : ∀ k, ReflTransGen t.rulebook.Needs n k → ¬ TransGen t.rulebook.Needs k k)
    (h : t.Built n o ran) (h' : t.Built n o' ran') : o = o' ∧ ran = ran' := by
  induction h generalizing o' ran' with
  | present hp hf =>
    cases h' with
    | present => exact ⟨rfl, rfl⟩
    | missing _ hf' => cases ht.isFile_unique hf hf'
    | planned hp' => rw [hp] at hp'; cases hp'
  | missing hp hf =>
    cases h' with
    | present _ hf' => cases ht.isFile_unique hf hf'
    | missing => exact ⟨rfl, rfl⟩
    | planned hp' => rw [hp] at hp'; cases hp'
  | @planned n p os runs o ran hp hos _ hc ih =>
    cases h' with
    | present hp' => rw [hp] at hp'; cases hp'
    | missing hp' => rw [hp] at hp'; cases hp'
    | @planned _ p' os' runs' _ _ hp' hos' hb' hc' =>
      rw [hp, Option.some.injEq] at hp'
      subst hp'
      have hneeds : ∀ a ∈ os, t.rulebook.Needs n a.1 := fun a hm =>
        Rulebook.needs_of_plan? hp (hos ▸ List.mem_map_of_mem hm)
      -- no dependency was refused, since none of them is on a cycle
      have hnever : ∀ a ∈ os, ∀ o, ¬ t.Refused a.1 o := by
        rintro a hm o ⟨chain, hchain, -⟩
        exact hacyclic a.1 (.single (hneeds a hm)) hchain.transGen
      have hsame : os = os' := by
        refine eq_of_map_fst_eq (hos.trans hos'.symm) fun k o o' hm hm' => ?_
        exact (ih (k, o) hm (hnever _ hm _) (fun j hj => hacyclic j (.head (hneeds _ hm) hj))
          (hb' (k, o') hm' (hnever _ hm _))).1
      subst hsame
      exact Concludes.unique ht hc hc'

end Fixed

/-! ## Cycles that are reported -/

theorem Runs.root_ne
    (hrun : ∀ n c e, t.performs n c (some (.error e)) → ∀ k chain, e.root ≠ .circular k chain)
    {cs : List Command} {e : BuildError} (h : t.Runs n cs (some (.error e)) ran) {k : Name}
    {chain : List Name} : e.root ≠ .circular k chain := by
  generalize ho : some (Failure.error e) = o at h
  induction h with
  | nil => cases ho
  | pass _ _ ih => exact ih ho
  | fail hc => exact hrun n _ e (ho ▸ hc) k chain

/-- A cycle that is reported from under any number of dependencies is there, if no command reports one. -/
theorem Built.cycle_of_root
    (hrun : ∀ n c e, t.performs n c (some (.error e)) → ∀ k chain, e.root ≠ .circular k chain)
    {e : BuildError} (h : t.Built n o ran) (ho : o = some (.error e)) {k : Name} {chain : List Name}
    (he : e.root = .circular k chain) :
    t.rulebook.Cycle k chain ∧ ReflTransGen t.rulebook.Needs n k := by
  induction h generalizing e with
  | present => cases ho
  | missing =>
    cases ho
    cases he
  | @planned n p os runs o ran hp hos _ hc ih =>
    cases hb : blame n os with
    | none =>
      rw [hb] at hc
      exact absurd he (Runs.root_ne hrun (ho ▸ hc))
    | some f =>
      rw [hb] at hc
      obtain ⟨rfl, -⟩ := hc
      cases ho
      obtain ⟨d, g, hm, ⟨e', rfl, he'⟩ | ⟨c, -, he'⟩⟩ := exists_of_blame_eq_some hb <;> cases he'
      have hneeds : t.rulebook.Needs n d := Rulebook.needs_of_plan? hp (hos ▸ List.mem_map_of_mem hm)
      by_cases hr : t.Refused d (some (.error e'))
      · obtain ⟨chain', hchain, heq⟩ := hr
        cases heq
        cases he
        exact ⟨hchain, .single hneeds⟩
      · obtain ⟨hchain, hpath⟩ := ih _ hm hr rfl he
        exact ⟨hchain, .head hneeds hpath⟩

end Terms

end Buildfile.Build
