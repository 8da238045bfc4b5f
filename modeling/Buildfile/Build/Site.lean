import Buildfile.Build.Ledger
/-!
# Sites

A site is what a build acts upon: it resolves names, performs commands and takes notes of progress,
and each of these may depend on its state. The engine knows nothing else about the world, so what
is shown of it holds for every rulebook, file system and way of running commands.

A name resolves to a plan, by its own rule or by a pattern; or it is present already; or it is
missing.
-/

namespace Buildfile.Build

/-- What a build says about its progress. -/
inductive Note where
  /-- The name is being built, or was built, by an earlier request. -/
  | joining (n : Name)
  /-- The name is built by a pattern rule. -/
  | byPattern (n rule : Name)
  /-- The name is a file and has no rule. -/
  | existing (n : Name)
  /-- The commands of the name have all succeeded. -/
  | finished (n : Name)
  deriving DecidableEq, Repr, Inhabited

/-- The wording of a note. -/
def Note.message : Note → Text
  | joining n => n ++ lit ": waiting for concurrent build"
  | byPattern n rule => n ++ lit ": using pattern rule '" ++ rule ++ lit "'"
  | existing n => n ++ lit ": satisfied by existing file"
  | finished n => n ++ lit ": done"

/-- The dependencies of one name, and the commands that build it after them. -/
structure Plan where
  dependencies : List Name
  commands : List Command
  deriving DecidableEq, Repr, Inhabited

/-- How a name is to be built. -/
inductive Resolution where
  /-- By a plan; `pattern` names the pattern rule it comes from, if it does. -/
  | planned (plan : Plan) (pattern : Option Name)
  /-- Not at all: it is a file. -/
  | present
  /-- No rule, no pattern and no file has the name. -/
  | missing
  deriving DecidableEq, Repr, Inhabited

/-- The plan of a name under a rule that stands for it. -/
def Plan.ofRule (r : Rule) (n : Name) : Plan where
  dependencies := r.dependenciesFor n
  commands := r.commands

/-- A name resolves to its own rule, else to the first pattern rule that stands for it, else to the
file of that name. -/
def resolve (b : Rulebook) (isFile : Name → Bool) (n : Name) : Resolution :=
  match b.get? n with
  | some r => .planned (.ofRule r n) none
  | none =>
    match b.match? n with
    | some r => .planned (.ofRule r n) (some r.name)
    | none => if isFile n then .present else .missing

/-- What a build acts upon, with states in `σ`. -/
structure Site (σ : Type) where
  /-- How a name is to be built, as things are now. -/
  resolve : σ → Name → Resolution
  /-- Runs one command for a target. -/
  perform : Name → Command → σ → Outcome × σ
  /-- Takes a note. -/
  note : Note → σ → σ

/-- The note that a resolution calls for. -/
def Resolution.note? (n : Name) : Resolution → Option Note
  | planned _ (some rule) => some (.byPattern n rule)
  | present => some (.existing n)
  | _ => none

/-- The resolution without the pattern rule that is said to be used. -/
def Resolution.bare : Resolution → Resolution
  | planned p _ => planned p none
  | r => r

/-- The site of rules that never change. Files may come and go as commands are run, and no notes are taken. -/
def Site.over {σ : Type} (b : Rulebook) (isFile : σ → Name → Bool) (perform : Name → Command → σ → Outcome × σ) :
    Site σ where
  resolve w n := Build.resolve b (isFile w) n
  perform := perform
  note _ w := w

/-- The outcome of a target whose dependencies ended like this: the failure of the first that
failed, in the order in which they are declared. A crash is passed on as it is. -/
def blame (n : Name) : List (Name × Outcome) → Outcome
  | [] => none
  | (_, none) :: rest => blame n rest
  | (d, some (.error e)) :: _ => some (.error (.dependencyFailed n d e))
  | (_, some (.crash c)) :: _ => some (.crash c)

/-- The target can be built on exactly if every dependency succeeded. -/
theorem blame_eq_none_iff (n : Name) (os : List (Name × Outcome)) : blame n os = none ↔ ∀ p ∈ os, p.2 = none := by
  induction os with
  | nil => simp [blame]
  | cons p os ih =>
    obtain ⟨d, o⟩ := p
    rcases o with _ | (e | c) <;> simp [blame, ih]

/-- A target that cannot be built on passes on the failure of one of its dependencies. -/
theorem exists_of_blame_eq_some {n : Name} {os : List (Name × Outcome)} {f : Failure} (h : blame n os = some f) :
    ∃ d g, (d, some g) ∈ os ∧
      ((∃ e, g = .error e ∧ f = .error (.dependencyFailed n d e)) ∨ ∃ c, g = .crash c ∧ f = .crash c) := by
  induction os with
  | nil => cases h
  | cons p os ih =>
    obtain ⟨d, o⟩ := p
    rcases o with _ | (e | c)
    · obtain ⟨d', g, hmem, hg⟩ := ih h
      exact ⟨d', g, List.mem_cons_of_mem _ hmem, hg⟩
    · cases h
      exact ⟨d, _, List.mem_cons_self, .inl ⟨e, rfl, rfl⟩⟩
    · cases h
      exact ⟨d, _, List.mem_cons_self, .inr ⟨c, rfl, rfl⟩⟩

/-- A failure of a dependency that is passed on is that of the first which failed. -/
theorem blame_eq_error {n : Name} {e : BuildError} {os : List (Name × Outcome)} (h : blame n os = some (.error e)) :
    ∃ before d cause after, os = before ++ (d, some (.error cause)) :: after ∧ (∀ a ∈ before, a.2 = none) ∧
      e = .dependencyFailed n d cause := by
  induction os with
  | nil => cases h
  | cons a os ih =>
    obtain ⟨d, o⟩ := a
    rcases o with _ | (cause | crash)
    · obtain ⟨before, d', cause, after, rfl, hbefore, he⟩ := ih h
      refine ⟨(d, none) :: before, d', cause, after, rfl, fun a hm => ?_, he⟩
      rcases List.mem_cons.1 hm with rfl | hm
      · rfl
      · exact hbefore a hm
    · cases h
      exact ⟨[], d, cause, os, rfl, nofun, rfl⟩
    · cases h

end Buildfile.Build
