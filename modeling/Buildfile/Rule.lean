import Buildfile.Text.Basic
/-!
# Rules

A rule says how one name is built: the names it needs first and the commands to run, in order. A
pattern rule stands for every name with its text before and after the wildcard `%`; what the
wildcard stands for in a name is the *stem*, and it takes the place of `%` in the dependencies.

`Rule.matches_iff` says which names a pattern rule stands for, and `Rule.stem_eq` that the stem of
such a name is what lies between the two texts.
-/

namespace Buildfile

/-- The name of something that can be built. -/
abbrev Name := Text

/-- The character that a pattern rule has in place of a stem. -/
def wildcard : Char := '%'

/-- One command line of a rule, with its variables already replaced. -/
structure Command where
  text : Text
  /-- A silent command is not shown before it runs. -/
  silent : Bool := false
  line : Option Int := none
  deriving DecidableEq, Repr, Inhabited

/-- How one name, or every name of a pattern, is built. -/
structure Rule where
  name : Name
  commands : List Command := []
  dependencies : List Name := []
  /-- Whether the rule stands for all names of the form `before`, stem, `after`. -/
  pattern : Bool := false
  before : Text := []
  after : Text := []
  line : Option Int := none
  deriving DecidableEq, Repr, Inhabited

namespace Rule

/-- The rule for a name as written at the head of a rule, where a wildcard makes it a pattern. -/
def ofName (name : Name) (dependencies : List Name) (commands : List Command) (line : Int) : Rule :=
  let (before, after) := Text.breakAt wildcard name
  if wildcard ∈ name then { name, commands, dependencies, pattern := true, before, after, line := some line }
  else { name, commands, dependencies, line := some line }

section OfName
variable (name : Name) (dependencies : List Name) (commands : List Command) (line : Int)

@[simp] theorem ofName_name : (ofName name dependencies commands line).name = name := by
  by_cases h : wildcard ∈ name <;> simp [ofName, h]

@[simp] theorem ofName_dependencies : (ofName name dependencies commands line).dependencies = dependencies := by
  by_cases h : wildcard ∈ name <;> simp [ofName, h]

@[simp] theorem ofName_commands : (ofName name dependencies commands line).commands = commands := by
  by_cases h : wildcard ∈ name <;> simp [ofName, h]

@[simp] theorem ofName_line : (ofName name dependencies commands line).line = some line := by
  by_cases h : wildcard ∈ name <;> simp [ofName, h]

/-- A name with a wildcard makes a pattern rule with the texts around its first wildcard. -/
theorem ofName_append {before : Text} (h : wildcard ∉ before) (after : Text) :
    ofName (before ++ wildcard :: after) dependencies commands line =
      { name := before ++ wildcard :: after, commands, dependencies, pattern := true, before, after,
        line := some line } := by
  simp only [ofName, Text.breakAt_append h]
  exact if_pos (by simp)

theorem ofName_of_not_mem {name : Name} (h : wildcard ∉ name) :
    ofName name dependencies commands line = { name, commands, dependencies, line := some line } := if_neg h

end OfName

/-- Whether a pattern rule stands for `n`. The two outer texts must not overlap in `n`. -/
def Matches (r : Rule) (n : Name) : Bool :=
  r.pattern && r.before.length + r.after.length ≤ n.length && r.before.isPrefixOf n && r.after.isSuffixOf n

/-- The part of `n` between the two outer texts. -/
def stem (r : Rule) (n : Name) : Text :=
  n.slice r.before.length ((n.length : Int) - r.after.length)

/-- The names needed to build `n` by this rule. -/
def dependenciesFor (r : Rule) (n : Name) : List Name :=
  if r.pattern then r.dependencies.map (Text.substitute wildcard (r.stem n)) else r.dependencies

theorem pattern_of_matches {r : Rule} {n : Name} (h : r.Matches n = true) : r.pattern = true := by
  simp only [Matches, Bool.and_eq_true] at h
  exact h.1.1.1

/-- A pattern rule stands for `n` exactly when `n` is its two outer texts around some stem. -/
theorem matches_iff {r : Rule} (h : r.pattern = true) (n : Name) :
    r.Matches n = true ↔ ∃ m, n = r.before ++ m ++ r.after := by
  simp only [Matches, h, Bool.true_and, Bool.and_eq_true, decide_eq_true_eq, List.isPrefixOf_iff_prefix,
    List.isSuffixOf_iff_suffix]
  constructor
  · rintro ⟨⟨hlen, ⟨b, rfl⟩⟩, ⟨a, ha⟩⟩
    have hb : r.after <:+ b := by
      refine List.suffix_of_suffix_length_le ⟨a, ha⟩ (List.suffix_append _ _) ?_
      simp only [List.length_append] at hlen; omega
    obtain ⟨m, rfl⟩ := hb
    exact ⟨m, by simp⟩
  · rintro ⟨m, rfl⟩
    refine ⟨⟨?_, ⟨m ++ r.after, by simp⟩⟩, ⟨r.before ++ m, by simp⟩⟩
    simp only [List.length_append]; omega

/-- The stem of a name is what lies between the two outer texts. -/
theorem stem_eq (r : Rule) (m : Text) : r.stem (r.before ++ m ++ r.after) = m :=
  Text.slice_append r.before m r.after

end Rule

/-! ## Rulebooks -/

/-- The rules of a description, in the order of their latest definition. -/
structure Rulebook where
  rules : List Rule := []
  deriving DecidableEq, Repr, Inhabited

namespace Rulebook

/-- The rulebook with `r` at its end; an earlier rule of the same name is dropped. -/
def add (b : Rulebook) (r : Rule) : Rulebook := ⟨b.rules.filter (·.name ≠ r.name) ++ [r]⟩

/-- All of `rs` added in order. -/
def addAll (b : Rulebook) (rs : List Rule) : Rulebook := rs.foldl add b

/-- The rule defined under exactly this name. -/
def get? (b : Rulebook) (n : Name) : Option Rule := b.rules.find? (·.name = n)

/-- Whether a rule is defined under exactly this name. -/
def contains (b : Rulebook) (n : Name) : Bool := b.rules.any (·.name = n)

/-- The number of rules. -/
def size (b : Rulebook) : Nat := b.rules.length

/-- The names of the rules in order. -/
def names (b : Rulebook) : List Name := b.rules.map (·.name)

/-- The pattern rules in order. -/
def patterns (b : Rulebook) : List Rule := b.rules.filter (·.pattern)

/-- The first pattern rule that stands for `n`. -/
def match? (b : Rulebook) (n : Name) : Option Rule := b.patterns.find? (·.Matches n)

section Found
variable {b : Rulebook} {n : Name} {r s : Rule} {rs : List Rule}

theorem mem_of_get? (h : b.get? n = some r) : r ∈ b.rules := List.mem_of_find?_eq_some h

theorem name_of_get? (h : b.get? n = some r) : r.name = n := by
  simpa using List.find?_some h

theorem mem_of_match? (h : b.match? n = some r) : r ∈ b.rules :=
  (List.mem_filter.1 (List.mem_of_find?_eq_some h)).1

theorem matches_of_match? (h : b.match? n = some r) : r.Matches n = true :=
  List.find?_some (p := (Rule.Matches · n)) h

/-- Where no two rules have one name, each is found under its name. -/
theorem get?_eq_some (h : b.names.Nodup) : b.get? n = some r ↔ r ∈ b.rules ∧ r.name = n := by
  constructor
  · exact fun hget => ⟨mem_of_get? hget, name_of_get? hget⟩
  · rintro ⟨hr, rfl⟩
    obtain ⟨front, rest, hrules⟩ := List.append_of_mem hr
    rw [names, hrules, List.map_append, List.map_cons, List.nodup_append] at h
    refine List.find?_eq_some_iff_append.2 ⟨decide_eq_true rfl, front, rest, hrules, fun s hs => ?_⟩
    have hne : s.name ≠ r.name := h.2.2 _ (List.mem_map_of_mem hs) _ List.mem_cons_self
    simpa using hne

theorem mem_rules_add : r ∈ (b.add s).rules ↔ r = s ∨ r.name ≠ s.name ∧ r ∈ b.rules := by
  simp [add, and_comm, or_comm]

theorem of_mem_addAll (h : r ∈ (b.addAll rs).rules) : r ∈ b.rules ∨ r ∈ rs := by
  induction rs generalizing b with
  | nil => exact .inl h
  | cons s rs ih =>
    rcases ih h with h | h
    · rcases mem_rules_add.1 h with rfl | ⟨-, h⟩
      · exact .inr List.mem_cons_self
      · exact .inl h
    · exact .inr (List.mem_cons_of_mem _ h)

end Found

theorem get?_add (b : Rulebook) (r : Rule) (n : Name) :
    (b.add r).get? n = if n = r.name then some r else b.get? n := by
  simp only [get?, add, List.find?_append, List.find?_filter]
  by_cases h : n = r.name
  · subst h
    rw [if_pos rfl, List.find?_eq_none.2 (by simp)]
    simp
  · rw [if_neg h, show [r].find? (fun x => decide (x.name = n)) = none by simp [Ne.symm h], Option.or_none]
    congr 1
    funext x
    by_cases hx : x.name = n <;> simp [hx, h]

theorem names_add (b : Rulebook) (r : Rule) :
    (b.add r).names = b.names.filter (· ≠ r.name) ++ [r.name] := by
  simp [names, add, List.filter_map, Function.comp_def]

/-- Adding rules keeps names distinct. -/
theorem nodup_names_add {b : Rulebook} (h : b.names.Nodup) (r : Rule) : (b.add r).names.Nodup := by
  rw [names_add]
  refine List.nodup_append.2 ⟨h.filter _, by simp, ?_⟩
  rintro x hx y hy rfl
  rw [List.mem_singleton] at hy
  simp [hy] at hx

end Rulebook

end Buildfile
