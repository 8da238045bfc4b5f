import Buildfile.Build.Site
import Mathlib.Data.List.Chain
import Mathlib.Logic.Relation
/-!
# What needs what

A rulebook says which names have to be built before a name, and so it spans a graph. `Needs` is its
edge relation, `Buildable` says which names can be built in it, and `Cycle` what it takes for a
chain of requests to show that a name needs itself.
-/

namespace Buildfile

open Build Relation

namespace Rulebook

variable {b : Rulebook} {isFile : Name → Bool} {n d : Name} {p : Plan}

/-- The rule that stands for a name: its own, else the first pattern rule that matches it. -/
def rule? (b : Rulebook) (n : Name) : Option Rule := (b.get? n).or (b.match? n)

theorem mem_of_rule? {r : Rule} (h : b.rule? n = some r) : r ∈ b.rules := by
  unfold rule? at h
  rcases Option.or_eq_some_iff.1 h with hget | ⟨-, hmatch⟩
  · exact Rulebook.mem_of_get? hget
  · exact Rulebook.mem_of_match? hmatch

/-- `d` is one of the dependencies of `n`. -/
def Needs (b : Rulebook) (n d : Name) : Prop := ∃ r, b.rule? n = some r ∧ d ∈ r.dependenciesFor n

/-- How a name is to be built, if a rule stands for it. -/
def plan? (b : Rulebook) (n : Name) : Option Plan := (b.rule? n).map (Plan.ofRule · n)

theorem needs_iff : b.Needs n d ↔ ∃ p, b.plan? n = some p ∧ d ∈ p.dependencies := by
  simp [Needs, plan?, Plan.ofRule]

theorem needs_of_plan? (hp : b.plan? n = some p) (hd : d ∈ p.dependencies) : b.Needs n d :=
  needs_iff.2 ⟨p, hp, hd⟩

/-- The commands of the rule that stands for a name. -/
def commandsFor (b : Rulebook) (n : Name) : List Command := ((b.rule? n).map (·.commands)).getD []

theorem commandsFor_of_plan? (hp : b.plan? n = some p) : b.commandsFor n = p.commands := by
  obtain ⟨r, hr, rfl⟩ := Option.map_eq_some_iff.1 hp
  simp [commandsFor, hr, Plan.ofRule]

theorem commandsFor_of_plan?_eq_none (hp : b.plan? n = none) : b.commandsFor n = [] := by
  have hr : b.rule? n = none := by simpa [plan?] using hp
  simp [commandsFor, hr]

theorem not_needs_of_plan?_eq_none (hp : b.plan? n = none) (d : Name) : ¬ b.Needs n d := by
  simp [needs_iff, hp]

theorem needs_iff_of_plan? (hp : b.plan? n = some p) : b.Needs n d ↔ d ∈ p.dependencies := by
  simp [needs_iff, hp]

/-- A name that is planned has a rule of its own, or the first pattern rule that stands for it. -/
theorem of_resolve_planned {pattern : Option Name} (h : resolve b isFile n = .planned p pattern) :
    ∃ r, p = .ofRule r n ∧
      (b.get? n = some r ∧ pattern = none ∨ b.get? n = none ∧ b.match? n = some r ∧ pattern = some r.name) := by
  unfold resolve at h
  cases hg : b.get? n with
  | some r =>
    rw [hg] at h
    cases h
    exact ⟨r, rfl, .inl ⟨rfl, rfl⟩⟩
  | none =>
    cases hm : b.match? n with
    | some r =>
      simp only [hg, hm] at h
      cases h
      exact ⟨r, rfl, .inr ⟨rfl, rfl, rfl⟩⟩
    | none =>
      simp only [hg, hm] at h
      split at h <;> cases h

theorem plan?_of_resolve {pattern : Option Name} (h : resolve b isFile n = .planned p pattern) :
    b.plan? n = some p := by
  obtain ⟨r, rfl, ⟨hg, -⟩ | ⟨hg, hm, -⟩⟩ := of_resolve_planned h
  · rw [plan?, rule?, hg]
    rfl
  · rw [plan?, rule?, hg, hm]
    rfl

theorem of_resolve_present (h : resolve b isFile n = .present) : b.plan? n = none ∧ isFile n = true := by
  unfold resolve at h
  unfold plan? rule?
  cases hg : b.get? n with
  | some r => simp [hg] at h
  | none =>
    cases hm : b.match? n with
    | some r => simp [hg, hm] at h
    | none => simpa [hg, hm] using h

theorem of_resolve_missing (h : resolve b isFile n = .missing) : b.plan? n = none ∧ isFile n = false := by
  unfold resolve at h
  unfold plan? rule?
  cases hg : b.get? n with
  | some r => simp [hg] at h
  | none =>
    cases hm : b.match? n with
    | some r => simp [hg, hm] at h
    | none => simpa [hg, hm] using h

/-- A name can be built if it is a file without a rule, or if everything it needs can be built and its
commands succeed. -/
inductive Buildable (b : Rulebook) (isFile : Name → Bool) (succeeds : Name → Command → Bool) : Name → Prop
  | file {n : Name} : b.rule? n = none → isFile n = true → Buildable b isFile succeeds n
  | rule {n : Name} {r : Rule} : b.rule? n = some r →
      (∀ d ∈ r.dependenciesFor n, Buildable b isFile succeeds d) →
      (∀ c ∈ r.commands, succeeds n c = true) → Buildable b isFile succeeds n

/-- The commands up to the first that fails. -/
def attempted (succeeds : Command → Bool) : List Command → List Command
  | [] => []
  | c :: cs => c :: if succeeds c then attempted succeeds cs else []

/-- Commands that all succeed are all attempted. -/
theorem attempted_eq_self {succeeds : Command → Bool} {cs : List Command} (h : ∀ c ∈ cs, succeeds c = true) :
    attempted succeeds cs = cs := by
  induction cs with
  | nil => rfl
  | cons c cs ih =>
    rw [attempted, h c (by simp), ih fun c hc => h c (by simp [hc])]
    rfl

section Buildable
variable {succeeds : Name → Command → Bool}

theorem buildable_iff_of_plan?_eq_none (hp : b.plan? n = none) :
    b.Buildable isFile succeeds n ↔ isFile n = true := by
  have hr : b.rule? n = none := by simpa [plan?] using hp
  constructor
  · rintro (⟨-, hf⟩ | ⟨hr', -, -⟩)
    · exact hf
    · rw [hr] at hr'
      cases hr'
  · exact .file hr

theorem buildable_iff_of_plan? (hp : b.plan? n = some p) : b.Buildable isFile succeeds n ↔
    (∀ d ∈ p.dependencies, b.Buildable isFile succeeds d) ∧ ∀ c ∈ p.commands, succeeds n c = true := by
  obtain ⟨r, hr, rfl⟩ := Option.map_eq_some_iff.1 hp
  constructor
  · rintro (⟨hr', -⟩ | ⟨hr', hds, hcs⟩)
    · rw [hr] at hr'
      cases hr'
    · rw [hr, Option.some.injEq] at hr'
      subst hr'
      exact ⟨hds, hcs⟩
  · rintro ⟨hds, hcs⟩
    exact .rule hr hds hcs

theorem Buildable.of_needs (h : b.Buildable isFile succeeds n) (hn : b.Needs n d) :
    b.Buildable isFile succeeds d := by
  obtain ⟨r, hr, hd⟩ := hn
  cases h with
  | file hnone _ => rw [hnone] at hr; cases hr
  | rule hr' hds _ =>
    rw [hr, Option.some.injEq] at hr'
    subst hr'
    exact hds d hd

/-- What is on a cycle cannot be built. -/
theorem Buildable.not_transGen (h : b.Buildable isFile succeeds n) :
    ¬ TransGen b.Needs n n := by
  -- along a cycle the induction hypothesis comes back to the name it started from
  induction h with
  | file hnone _ =>
    intro hc
    obtain ⟨d, ⟨r, hr, -⟩, -⟩ := TransGen.head'_iff.1 hc
    rw [hnone] at hr
    cases hr
  | rule hr hds _ ih =>
    intro hc
    obtain ⟨d, ⟨r', hr', hd⟩, hback⟩ := TransGen.head'_iff.1 hc
    rw [hr, Option.some.injEq] at hr'
    subst hr'
    exact ih d hd (TransGen.tail' hback ⟨_, hr, hd⟩)

/-- What can be built reaches no cycle. -/
theorem Buildable.acyclic (h : b.Buildable isFile succeeds n) {k : Name}
    (hk : ReflTransGen b.Needs n k) : ¬ TransGen b.Needs k k := by
  induction hk using ReflTransGen.head_induction_on with
  | refl => exact h.not_transGen
  | head hn _ ih => exact ih (h.of_needs hn)

end Buildable

/-- A chain of needs that ends with `n`, and a way from `n` back to one of the names before. -/
structure Cycle (b : Rulebook) (n : Name) (chain : List Name) : Prop where
  ends : chain.getLast? = some n
  linked : chain.IsChain b.Needs
  back : ∃ a ∈ chain.dropLast, ReflTransGen b.Needs n a

theorem transGen_of_isChain {R : Name → Name → Prop} {a : Name} {as : List Name}
    (h : (a :: (as ++ [n])).IsChain R) : TransGen R a n := by
  induction as generalizing a with
  | nil => exact .single (List.isChain_pair.1 h)
  | cons x as ih =>
    rw [List.cons_append, List.isChain_cons_cons] at h
    exact .head h.1 (ih h.2)

/-- A name with such a chain needs itself. -/
theorem Cycle.transGen {chain : List Name} (h : b.Cycle n chain) : TransGen b.Needs n n := by
  obtain ⟨as, rfl⟩ := List.getLast?_eq_some_iff.1 h.ends
  obtain ⟨a, ha, hback⟩ := h.back
  rw [List.dropLast_concat] at ha
  obtain ⟨u, v, rfl⟩ := List.append_of_mem ha
  have hlinked := h.linked
  rw [List.append_assoc, List.cons_append] at hlinked
  exact TransGen.trans_right hback (transGen_of_isChain hlinked.right_of_append)

/-- Two names that need each other. -/
def crossing : Rulebook where
  rules := [{ name := lit "a", dependencies := [lit "b"] }, { name := lit "b", dependencies := [lit "a"] }]

/-- A name with a command, and the name it needs. -/
def paired : Rulebook where
  rules := [{ name := lit "a", dependencies := [lit "b"], commands := [{ text := lit "make a" }] }]

/-- Three names with a command each, every one of which needs the next. -/
def stacked : Rulebook where
  rules := [{ name := lit "a", dependencies := [lit "b"], commands := [{ text := lit "make a" }] },
    { name := lit "b", dependencies := [lit "c"], commands := [{ text := lit "make b" }] },
    { name := lit "c", commands := [{ text := lit "make c" }] }]

theorem needs_paired_iff : paired.Needs n d ↔ n = lit "a" ∧ d = lit "b" := by
  simp only [Needs, rule?, get?, match?, patterns, paired, List.find?_cons, List.filter_cons]
  by_cases hn : n = lit "a"
  · simp [hn, Rule.dependenciesFor]
  · simp [hn, Ne.symm hn]

end Rulebook

end Buildfile
