import Buildfile.Description.Reader
import Buildfile.Proofs.Agreement
import Mathlib.Data.Set.Finite.Lattice
import Mathlib.Order.Bounds.Basic
/-!
# Which builds come to an end

A build comes to an end exactly if its name reaches finitely many names. That finitely many suffice is
`ends_of_finite`; conversely a build that ended has a record of every name that is reached, for failures
keep no dependency from being requested (`finite_of_ends`).

Rules without patterns reach only names that are written in them. So a build that goes on for ever goes along
a chain of names that never comes back to one of them (`exists_endless`).
-/

namespace Buildfile

open Relation

/-! ## Paths that repeat no place -/

section Paths

variable {α : Type} {R : α → α → Prop} {A : Set α} {x y : α}

/-- A step to a place outside of `A`. -/
def Outside (R : α → α → Prop) (A : Set α) (x y : α) : Prop := R x y ∧ y ∉ A

/-- What can be reached can be reached without coming back to the start. -/
theorem reflTransGen_outside_insert (h : ReflTransGen (Outside R A) x y) :
    ReflTransGen (Outside R (insert x A)) x y := by
  induction h with
  | refl => exact .refl
  | @tail y z _ hstep ih =>
    by_cases hz : z = x
    · rw [hz]
    · refine ih.tail ⟨hstep.1, fun hmem => ?_⟩
      rcases Set.mem_insert_iff.1 hmem with h | h
      · exact hz h
      · exact hstep.2 h

theorem exists_step_infinite (hfinite : {y | R x y}.Finite)
    (h : {z | ReflTransGen (Outside R A) x z}.Infinite) :
    ∃ y, R x y ∧ y ∉ A ∧ {z | ReflTransGen (Outside R (insert y A)) y z}.Infinite := by
  by_contra hnone
  -- otherwise what is reached is `x`, and behind each of finitely many steps finitely many places
  have hbehind : ∀ y ∈ {y | R x y}, {z | Outside R A x y ∧ ReflTransGen (Outside R A) y z}.Finite := by
    intro y hy
    by_cases hA : y ∈ A
    · refine Set.finite_empty.subset ?_
      rintro z ⟨⟨-, hnot⟩, -⟩
      exact absurd hA hnot
    · by_contra hinfinite
      refine hnone ⟨y, hy, hA, Set.Infinite.mono ?_ hinfinite⟩
      rintro z ⟨-, hz⟩
      exact reflTransGen_outside_insert hz
  refine h (((Set.finite_singleton x).union (hfinite.biUnion hbehind)).subset ?_)
  intro z hz
  rcases ReflTransGen.cases_head hz with rfl | ⟨y, hstep, hy⟩
  · exact .inl rfl
  · exact .inr (Set.mem_biUnion hstep.1 ⟨hstep, hy⟩)

/-- A place and those seen so far, such that infinitely many others can be reached outside of them. -/
structure Unbounded (R : α → α → Prop) (p : α × Set α) : Prop where
  seen : p.1 ∈ p.2
  infinite : {y | ReflTransGen (Outside R p.2) p.1 y}.Infinite

theorem Unbounded.start (h : {y | ReflTransGen R x y}.Infinite) : Unbounded R (x, {x}) := by
  refine ⟨rfl, h.mono fun y hy => ?_⟩
  have hempty : ReflTransGen (Outside R ∅) x y :=
    ReflTransGen.mono (fun _ _ hstep => ⟨hstep, Set.notMem_empty _⟩) _ _ hy
  simpa using reflTransGen_outside_insert hempty

theorem Unbounded.exists_next {p : α × Set α} (hfinite : ∀ x, {y | R x y}.Finite) (h : Unbounded R p) :
    ∃ y, R p.1 y ∧ y ∉ p.2 ∧ Unbounded R (y, insert y p.2) := by
  obtain ⟨y, hstep, hnew, hinfinite⟩ := exists_step_infinite (hfinite p.1) h.infinite
  exact ⟨y, hstep, hnew, Set.mem_insert _ _, hinfinite⟩

/-- With finitely many steps from each place, infinitely many places lie on a path without end that repeats
none of them. -/
theorem exists_path (hfinite : ∀ x, {y | R x y}.Finite) (h : {y | ReflTransGen R x y}.Infinite) :
    ∃ path : ℕ → α, path 0 = x ∧ (∀ i, R (path i) (path (i + 1))) ∧ Function.Injective path := by
  have hnext : ∀ p : {p // Unbounded R p}, ∃ q : {p // Unbounded R p},
      R p.1.1 q.1.1 ∧ q.1.1 ∉ p.1.2 ∧ q.1.2 = insert q.1.1 p.1.2 := by
    rintro ⟨p, hp⟩
    obtain ⟨y, hstep, hnew, hy⟩ := hp.exists_next hfinite
    exact ⟨⟨_, hy⟩, hstep, hnew, rfl⟩
  choose next hstep hnew hseen using hnext
  let walk : ℕ → {p // Unbounded R p} := fun i => next^[i] ⟨_, .start h⟩
  have hwalk : ∀ i, walk (i + 1) = next (walk i) := fun i => Function.iterate_succ_apply' next i _
  -- a place stays among those seen, and the next one is none of them
  have hkept : ∀ i k, (walk i).1.1 ∈ (walk (i + k)).1.2 := by
    intro i k
    induction k with
    | zero => exact (walk i).2.seen
    | succ k ih =>
      rw [← Nat.add_assoc, hwalk, hseen]
      exact Set.mem_insert_of_mem _ ih
  refine ⟨fun i => (walk i).1.1, rfl, fun i => ?_, .of_lt_imp_ne fun i j hij heq => ?_⟩
  · simp only [hwalk]
    exact hstep (walk i)
  · obtain ⟨k, rfl⟩ := Nat.exists_eq_add_of_lt hij
    refine hnew (walk (i + k)) ?_
    rw [← hwalk, ← heq]
    exact hkept i k

end Paths

/-! ## Names that are reached -/

namespace Rulebook

variable {b : Rulebook} {n : Name}

theorem finite_needs (b : Rulebook) (n : Name) : {d | b.Needs n d}.Finite := by
  cases hp : b.plan? n with
  | none =>
    refine Set.finite_empty.subset fun d hd => ?_
    exact absurd hd (not_needs_of_plan?_eq_none hp d)
  | some p => exact (List.finite_toSet p.dependencies).subset fun d hd => (needs_iff_of_plan? hp).1 hd

/-- Without patterns, what a name needs is written in the rules. -/
theorem mem_dependencies_of_needs (hb : b.patterns = []) {d : Name} (h : b.Needs n d) :
    d ∈ b.rules.flatMap (·.dependencies) := by
  obtain ⟨r, hr, hd⟩ := h
  have hmem := mem_of_rule? hr
  have hplain : r.pattern ≠ true := List.filter_eq_nil_iff.1 hb r hmem
  rw [Rule.dependenciesFor, if_neg hplain] at hd
  exact List.mem_flatMap.2 ⟨r, hmem, hd⟩

theorem finite_of_patterns_eq_nil (hb : b.patterns = []) (n : Name) : {k | ReflTransGen b.Needs n k}.Finite := by
  refine (List.finite_toSet (n :: b.rules.flatMap (·.dependencies))).subset fun k hk => ?_
  rcases hk.cases_tail with rfl | ⟨j, -, hneeds⟩
  · exact List.mem_cons_self
  · exact List.mem_cons_of_mem _ (mem_dependencies_of_needs hb hneeds)

/-- What can be built reaches finitely many names. -/
theorem Buildable.finite {isFile : Name → Bool} {succeeds : Name → Command → Bool}
    (h : b.Buildable isFile succeeds n) : {k | ReflTransGen b.Needs n k}.Finite := by
  -- by induction on how it is built: a name reaches itself and what its dependencies reach
  induction h with
  | @file n hr _ =>
    refine (Set.finite_singleton n).subset fun k hk => ?_
    rcases hk.cases_head with rfl | ⟨d, ⟨r, hr', -⟩, -⟩
    · rfl
    · rw [hr] at hr'
      cases hr'
  | @rule n r hr _ _ ih =>
    have hbelow : (⋃ d ∈ r.dependenciesFor n, {k | ReflTransGen b.Needs d k}).Finite :=
      (List.finite_toSet _).biUnion ih
    refine (hbelow.insert n).subset fun k hk => ?_
    rcases hk.cases_head with rfl | ⟨d, ⟨r', hr', hd⟩, hpath⟩
    · exact Set.mem_insert _ _
    · rw [hr, Option.some.injEq] at hr'
      subst hr'
      exact Set.mem_insert_of_mem _ (Set.mem_biUnion hd hpath)

/-- A chain of names from `n` on, each of which needs the next. No name comes twice, and from some place on none
of them has a rule of its own: all are built by pattern rules. -/
structure Endless (b : Rulebook) (n : Name) (chain : ℕ → Name) : Prop where
  start : chain 0 = n
  needs (i : ℕ) : b.Needs (chain i) (chain (i + 1))
  new : Function.Injective chain
  patterns : ∃ k, ∀ i ≥ k, b.get? (chain i) = none ∧ (b.match? (chain i)).isSome

theorem Endless.infinite {chain : ℕ → Name} (h : b.Endless n chain) : {k | ReflTransGen b.Needs n k}.Infinite := by
  have hreach : ∀ i, ReflTransGen b.Needs n (chain i) := by
    intro i
    induction i with
    | zero => rw [h.start]
    | succ i ih => exact ih.tail (h.needs i)
  exact Set.infinite_of_injective_forall_mem h.new hreach

/-- From some place on, a chain that repeats no name holds none of finitely many names. -/
theorem exists_forall_not_mem {chain : ℕ → Name} (hnew : Function.Injective chain) (ns : List Name) :
    ∃ k, ∀ i ≥ k, chain i ∉ ns := by
  have hfinite : {i | chain i ∈ ns}.Finite := (List.finite_toSet ns).preimage hnew.injOn
  obtain ⟨k, hk⟩ := hfinite.bddAbove
  refine ⟨k + 1, fun i hi hmem => ?_⟩
  have hle : i ≤ k := hk hmem
  omega

theorem get?_eq_none_of_not_mem (h : n ∉ b.names) : b.get? n = none := by
  rw [get?, List.find?_eq_none]
  intro r hr hname
  exact h (List.mem_map.2 ⟨r, hr, of_decide_eq_true hname⟩)

theorem exists_endless (h : {k | ReflTransGen b.Needs n k}.Infinite) : ∃ chain, b.Endless n chain := by
  obtain ⟨chain, hstart, hneeds, hnew⟩ := exists_path b.finite_needs h
  obtain ⟨k, hk⟩ := exists_forall_not_mem hnew b.names
  refine ⟨chain, hstart, hneeds, hnew, k, fun i hi => ?_⟩
  have hget := get?_eq_none_of_not_mem (hk i hi)
  obtain ⟨r, hr, -⟩ := hneeds i
  rw [rule?, hget, Option.none_or] at hr
  exact ⟨hget, by rw [hr]; rfl⟩

/-- A pattern rule for all names, each of which needs a longer one. -/
def growing : Rulebook := ⟨[.ofName (lit "%") [lit "%.x"] [] 1]⟩

theorem rule_growing : Rule.ofName (lit "%") [lit "%.x"] [] 1 =
    { name := lit "%", dependencies := [lit "%.x"], pattern := true, line := some 1 } := by
  decide +kernel

theorem match?_growing (n : Name) : growing.match? n = some (.ofName (lit "%") [lit "%.x"] [] 1) := by
  simp [match?, patterns, growing, rule_growing, Rule.Matches]

theorem get?_growing (hn : n ≠ lit "%") : growing.get? n = none := by
  simp [get?, growing, Ne.symm hn]

theorem needs_growing (hn : n ≠ lit "%") : growing.Needs n (n ++ lit ".x") := by
  refine ⟨.ofName (lit "%") [lit "%.x"] [] 1, ?_, ?_⟩
  · rw [rule?, get?_growing hn, match?_growing, Option.none_or]
  · have hstem := Rule.stem_eq (.ofName (lit "%") [lit "%.x"] [] 1) n
    rw [rule_growing] at hstem ⊢
    rw [List.nil_append, List.append_nil] at hstem
    have hlonger : Text.substitute wildcard n (lit "%.x") = n ++ lit ".x" := by
      simp [Text.substitute, wildcard, lit]
    simp [Rule.dependenciesFor, hstem, hlonger]

theorem endless_growing : growing.Endless (lit "a") fun i => 'a' :: (List.replicate i (lit ".x")).flatten := by
  have hne : ∀ t : Text, 'a' :: t ≠ lit "%" := by
    intro t
    simp [lit]
  refine ⟨by simp [lit], fun i => ?_, fun i j h => ?_, 0, fun i _ => ⟨get?_growing (hne _), ?_⟩⟩
  · have hneeds := needs_growing (hne (List.replicate i (lit ".x")).flatten)
    rw [List.replicate_succ', List.flatten_concat]
    exact hneeds
  · have hlength := congrArg List.length h
    simp [lit] at hlength
    omega
  · rw [match?_growing]
    rfl

end Rulebook

namespace Build.Session

variable {σ : Type} {site : Site σ} {ok : σ → Prop} {b : Rulebook} {n : Name} {w : σ}

/-! ## Builds that ended -/

/-- A build that ended has requested all that its name reaches. -/
theorem finite_of_ends (hk : site.Keeps ok) (hf : ∀ w, ok w → site.Follows b w) (hw : ok w) (h : Ends site n w) :
    {k | ReflTransGen b.Needs n k}.Finite := by
  obtain ⟨depth, ⟨o, s⟩, hexec⟩ := h
  -- the build is one of the ways in which a new machine can answer the request
  obtain ⟨m, hreach, hasked, -, ho⟩ := Machine.exists_of_execute hk hw hexec
  have hm := hreach.mono hf
  have hco := Machine.reachable_coherent hm
  have hsound := Machine.sound_of_follows (fun _ _ _ => True) hm fun _ _ _ _ => trivial
  refine (List.finite_toSet m.ledger.records.keys).subset fun k hpath => ?_
  have hrecorded : m.ledger.records.get? k ≠ none :=
    (Machine.records_ne_none_iff hco hsound (hasked.finished hco ho)).2 ⟨n, (hasked.mem_roots_iff n).2 rfl, hpath⟩
  rw [Set.mem_ofPred_eq, Table.mem_keys_iff]
  exact Option.ne_none_iff_exists'.1 hrecorded

/-- On a site that keeps to its rules, whatever the files are and however commands end, a build comes to an end
exactly if its name reaches finitely many names. Without pattern rules it always does. If it does not,
pattern rules lead from its name along a chain of ever new names, and such a chain keeps it from ending. -/
theorem ends_iff (hk : site.Keeps ok) (hf : ∀ w, ok w → site.Follows b w) (hw : ok w) (n : Name) :
    (Ends site n w ↔ {k | ReflTransGen b.Needs n k}.Finite) ∧
    (b.patterns = [] → Ends site n w) ∧
    (¬ Ends site n w ↔ ∃ chain, b.Endless n chain) := by
  have hiff : Ends site n w ↔ {k | ReflTransGen b.Needs n k}.Finite :=
    ⟨finite_of_ends hk hf hw, ends_of_finite hk hf hw⟩
  refine ⟨hiff, fun hb => hiff.2 (Rulebook.finite_of_patterns_eq_nil hb n), ?_⟩
  rw [hiff]
  constructor
  · exact Rulebook.exists_endless
  · rintro ⟨chain, hchain⟩
    exact hchain.infinite

/-- Every name needs the name that is longer by `.x`, so that the build of no name ends; two names that need each
other are both built to an end. -/
theorem ends_iff_growing : Description.parse [] (lit "%: %.x\n") = .ok { rulebook := .growing } ∧
    (∀ depth, execute (.fixed .growing (fun _ => false) fun _ _ => none) depth (lit "a") { world := () } = none) ∧
    ∃ depth r, execute (.fixed .crossing (fun _ => false) fun _ _ => none) depth (lit "a") { world := () } = some r := by
  have hkeeps : ∀ b, (Site.fixed b (fun _ => false) fun _ _ => none).Keeps fun _ => True :=
    fun _ => ⟨fun _ _ _ => trivial, fun _ _ => trivial⟩
  have hfollows : ∀ b w, True → (Site.fixed b (fun _ => false) fun _ _ => none).Follows b w :=
    fun b w _ => Site.follows_fixed b _ _ w
  refine ⟨by decide +kernel, fun depth => ?_, ?_⟩
  · obtain ⟨-, -, hendless⟩ := ends_iff (hkeeps .growing) (hfollows .growing) (w := ()) trivial (lit "a")
    have hnot := hendless.2 ⟨_, Rulebook.endless_growing⟩
    rw [Option.eq_none_iff_forall_ne_some]
    intro r hr
    exact hnot ⟨depth, r, hr⟩
  · obtain ⟨-, hends, -⟩ := ends_iff (hkeeps .crossing) (hfollows .crossing) (w := ()) trivial (lit "a")
    exact hends (by decide +kernel)

end Build.Session

end Buildfile
