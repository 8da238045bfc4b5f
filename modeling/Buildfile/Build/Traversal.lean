import Buildfile.Build.Dependency
import Mathlib.Data.Set.Insert
/-!
# Depth-first post-order

`Postorder` visits names and what they need, depth first and in the order in which dependencies are declared. It enters
no name twice, and so none that is still on its path either, and lists a name once it has left it.

It has one result at most (`Postorder.unique`), which lists no name twice; from a single name these are the names that
it reaches (`Postorder.mem_iff`).
-/

namespace Buildfile.Rulebook

open Relation

variable {b : Rulebook} {n k d : Name} {ns ms order order' : List Name} {seen : Set Name}

/-- The dependencies of the rule that stands for a name, as they are declared. -/
def dependenciesFor (b : Rulebook) (n : Name) : List Name := ((b.rule? n).map (·.dependenciesFor n)).getD []

theorem mem_dependenciesFor : d ∈ b.dependenciesFor n ↔ b.Needs n d := by
  unfold dependenciesFor Needs
  cases b.rule? n <;> simp

/-- What a name reaches is among these if they hold the name and their own dependencies. -/
theorem mem_of_closed (hn : n ∈ ns) (hclosed : ∀ k ∈ ns, ∀ d ∈ b.dependenciesFor k, d ∈ ns)
    (hk : ReflTransGen b.Needs n k) : k ∈ ns := by
  induction hk with
  | refl => exact hn
  | tail _ hd ih => exact hclosed _ ih _ (mem_dependenciesFor.2 hd)

theorem dependenciesFor_of_plan? {p : Build.Plan} (hp : b.plan? n = some p) : b.dependenciesFor n = p.dependencies := by
  obtain ⟨r, hr, rfl⟩ := Option.map_eq_some_iff.1 hp
  simp [dependenciesFor, hr, Build.Plan.ofRule]

theorem dependenciesFor_of_plan?_eq_none (hp : b.plan? n = none) : b.dependenciesFor n = [] := by
  have hr : b.rule? n = none := by simpa [plan?] using hp
  simp [dependenciesFor, hr]

/-- The names that are entered, in the order in which they are left, when these names are visited and those of `seen`
have been entered already. -/
inductive Postorder (b : Rulebook) : Set Name → List Name → List Name → Prop
  | nil {seen : Set Name} : Postorder b seen [] []
  | skip {seen : Set Name} {n : Name} {ns order : List Name} : n ∈ seen → Postorder b seen ns order →
      Postorder b seen (n :: ns) order
  | enter {seen : Set Name} {n : Name} {ns below after : List Name} : n ∉ seen →
      Postorder b (insert n seen) (b.dependenciesFor n) below →
      Postorder b (insert n seen ∪ {k | k ∈ below}) ns after → Postorder b seen (n :: ns) (below ++ n :: after)

namespace Postorder

/-- What has been entered once these names are visited. -/
theorem union_below (below after : List Name) : insert n seen ∪ {k | k ∈ below} ∪ {k | k ∈ after} =
    seen ∪ {k | k ∈ below ++ n :: after} := by
  ext k
  simp only [Set.mem_union, Set.mem_insert_iff, Set.mem_ofPred_eq, List.mem_append, List.mem_cons]
  tauto

theorem append (h : b.Postorder seen ns order) (h' : b.Postorder (seen ∪ {k | k ∈ order}) ms order') :
    b.Postorder seen (ns ++ ms) (order ++ order') := by
  induction h with
  | nil => simpa using h'
  | skip hseen _ ih => exact .skip hseen (ih h')
  | enter hn hbelow _ _ ih =>
    rw [List.append_assoc, List.cons_append]
    exact .enter hn hbelow (ih (by rwa [union_below]))

/-- The names have one order only. -/
theorem unique (h : b.Postorder seen ns order) (h' : b.Postorder seen ns order') : order = order' := by
  induction h generalizing order' with
  | nil =>
    cases h'
    rfl
  | skip hseen _ ih =>
    cases h' with
    | skip _ h' => exact ih h'
    | enter hn => exact absurd hseen hn
  | enter hn _ _ ihbelow ihafter =>
    cases h' with
    | skip hseen => exact absurd hseen hn
    | enter _ hbelow hafter =>
      obtain rfl := ihbelow hbelow
      obtain rfl := ihafter hafter
      rfl

/-- A name is left once, and only if it had not been entered before. -/
theorem fresh (h : b.Postorder seen ns order) : order.Nodup ∧ ∀ k ∈ order, k ∉ seen := by
  induction h with
  | nil => simp
  | skip _ _ ih => exact ih
  | @enter seen n ns below after hn _ _ ihbelow ihafter =>
    obtain ⟨hbelow, hbelow'⟩ := ihbelow
    obtain ⟨hafter, hafter'⟩ := ihafter
    simp only [Set.mem_union, Set.mem_insert_iff, Set.mem_ofPred_eq, not_or] at hbelow' hafter'
    refine ⟨?_, fun k hk => ?_⟩
    · rw [List.nodup_append]
      refine ⟨hbelow, List.nodup_cons.2 ⟨fun hmem => (hafter' n hmem).1.1 rfl, hafter⟩, ?_⟩
      rintro k hk _ hmem rfl
      rcases List.mem_cons.1 hmem with rfl | hmem
      · exact (hbelow' k hk).1 rfl
      · exact (hafter' k hmem).2 hk
    · rcases List.mem_append.1 hk with hk | hk
      · exact (hbelow' k hk).2
      rcases List.mem_cons.1 hk with rfl | hk
      · exact hn
      · exact (hafter' k hk).1.2

theorem nodup (h : b.Postorder seen ns order) : order.Nodup := h.fresh.1

/-- Only names that are reached are entered. -/
theorem reached (h : b.Postorder seen ns order) (hk : k ∈ order) : ∃ n ∈ ns, ReflTransGen b.Needs n k := by
  induction h with
  | nil => cases hk
  | skip _ _ ih =>
    obtain ⟨m, hm, hpath⟩ := ih hk
    exact ⟨m, List.mem_cons_of_mem _ hm, hpath⟩
  | @enter seen n ns below after _ _ _ ihbelow ihafter =>
    rcases List.mem_append.1 hk with hk | hk
    · obtain ⟨m, hm, hpath⟩ := ihbelow hk
      exact ⟨n, List.mem_cons_self, .head (mem_dependenciesFor.1 hm) hpath⟩
    rcases List.mem_cons.1 hk with rfl | hk
    · exact ⟨k, List.mem_cons_self, .refl⟩
    · obtain ⟨m, hm, hpath⟩ := ihafter hk
      exact ⟨m, List.mem_cons_of_mem _ hm, hpath⟩

/-- The names that are visited have been entered, and so has all that the entered names need. -/
theorem closed (h : b.Postorder seen ns order) : (∀ n ∈ ns, n ∈ seen ∨ n ∈ order) ∧
    ∀ k ∈ order, ∀ d, b.Needs k d → d ∈ seen ∨ d ∈ order := by
  induction h with
  | nil => simp
  | @skip seen n ns order hseen _ ih =>
    refine ⟨fun m hm => ?_, ih.2⟩
    rcases List.mem_cons.1 hm with rfl | hm
    · exact .inl hseen
    · exact ih.1 m hm
  | @enter seen n ns below after _ _ _ ihbelow ihafter =>
    have hwhole : ∀ d, (d ∈ insert n seen ∪ {k | k ∈ below} ∨ d ∈ after) ↔ d ∈ seen ∨ d ∈ below ++ n :: after :=
      Set.ext_iff.1 (union_below below after)
    have hpart : ∀ {d}, d ∈ insert n seen ∨ d ∈ below → d ∈ seen ∨ d ∈ below ++ n :: after := fun {d} hd =>
      (hwhole d).1 (.inl hd)
    refine ⟨fun m hm => ?_, fun k hk d hneeds => ?_⟩
    · rcases List.mem_cons.1 hm with rfl | hm
      · exact hpart (.inl (Set.mem_insert _ _))
      · exact (hwhole m).1 (ihafter.1 m hm)
    · rcases List.mem_append.1 hk with hk | hk
      · exact hpart (ihbelow.2 k hk d hneeds)
      rcases List.mem_cons.1 hk with rfl | hk
      · exact hpart (ihbelow.1 d (mem_dependenciesFor.2 hneeds))
      · exact (hwhole d).1 (ihafter.2 k hk d hneeds)

/-- From a single name, all that it reaches is entered. -/
theorem mem_iff (h : b.Postorder ∅ [n] order) (k : Name) : k ∈ order ↔ ReflTransGen b.Needs n k := by
  constructor
  · intro hk
    obtain ⟨m, hm, hpath⟩ := h.reached hk
    rw [List.mem_singleton] at hm
    exact hm ▸ hpath
  · intro hpath
    obtain ⟨hstart, hneeds⟩ := h.closed
    induction hpath with
    | refl => exact (hstart n List.mem_cons_self).resolve_left id
    | tail _ hd ih => exact (hneeds _ ih _ hd).resolve_left id

end Postorder

/-- A name that needs two others, one of them twice. The other needs it in turn. -/
def knotted : Rulebook where
  rules := [
    { name := lit "a", dependencies := [lit "c", lit "b", lit "c"], commands := [{ text := lit "make a" }] },
    { name := lit "b", dependencies := [lit "a"], commands := [{ text := lit "make b" }] },
    { name := lit "c", commands := [{ text := lit "one" }, { text := lit "two" }, { text := lit "three" }] }]

end Buildfile.Rulebook
