import Buildfile.Proofs.Outline
import Buildfile.Proofs.Redefinition
/-!
# A description says what its outline says

A reader goes through the lines with a draft that grows and is finished late. `Reader.Ahead` says what a
reader that has come to some line will have made of the whole description at its end: its rules, those of
its draft with the commands that are still to come, and then those of the heads further down. Every line
keeps this (`Reader.Ahead.feed`), so at the end the rules are those of the outline in order, of which the
last for each name is left. `parse_reads` is the result.
-/

namespace Buildfile.Description

variable {ls : List Text} {l : Text} {i k : Nat} {r r' : Reader} {b : Rulebook} {x : Name}

/-! ## Reading on -/

/-- The rules of a reader once these commands have been added to its draft. -/
def Reader.rulebookWith (r : Reader) (cs : List Command) : Rulebook :=
  match r.draft with
  | none => r.rulebook
  | some d => r.rulebook.addAll { d with commands := d.commands ++ cs }.rules

/-- A reader that has come to line `k` will have made these rules at the end of the description: its own,
with the commands that are still to come for its draft, and those of the heads further down. -/
structure Reader.Ahead (ls : List Text) (b : Rulebook) (k : Nat) (r : Reader) : Prop where
  bindings : r.bindings = variablesOf (ls.take k)
  rulebook : (r.rulebookWith (commandsFrom ls k)).addAll
    ((headsFrom ls k).map fun e => ruleAt ls (ofLex e.1).1 e.2) = b

namespace Reader

theorem finish_bindings (r : Reader) : r.finish.bindings = r.bindings := by
  unfold finish
  split <;> rfl

theorem rulebookWith_nil (r : Reader) : r.rulebookWith [] = r.finish.rulebook := by
  cases hd : r.draft <;> simp [rulebookWith, finish, hd]

theorem rulebookWith_cons {d : Draft} (hd : r.draft = some d) (c : Command) (cs : List Command) :
    r.rulebookWith (c :: cs) =
      { r with draft := some { d with commands := d.commands ++ [c] } }.rulebookWith cs := by
  simp [rulebookWith, hd]

/-- The head of a line makes one rule for each of its names. -/
theorem map_ruleAt_headsAt (hl : ls[k]? = some l) (hk : LineKind.of l = .target) :
    (headsAt ls k).map (fun e => ruleAt ls (ofLex e.1).1 e.2) =
      Draft.rules { names := headWords l, dependencies := tailWords l, line := k + 1, commands := commandsFrom ls (k + 1) } := by
  have hnames : headWords l = (headWords l).zipIdx.map (·.1) := (List.zipIdx_map_fst 0 _).symm
  rw [headsAt_of_target hl hk, List.map_map, Draft.rules]
  conv_rhs => rw [hnames, List.map_map]
  simp [ruleAt, hl, Function.comp_def]

/-- A line that is taken keeps what lies ahead. -/
theorem Ahead.feed (h : Ahead ls b k r) (hl : ls[k]? = some l) (hf : r.feed (k + 1) l = .ok r') :
    Ahead ls b (k + 1) r' := by
  obtain ⟨hbind, hrules⟩ := h
  rw [headsFrom_eq hl] at hrules
  have hset : variablesOf (ls.take (k + 1)) = assign (variablesOf (ls.take k)) l := by
    rw [take_succ_eq hl, variablesOf_concat]
  have hkeep : LineKind.of l ≠ .variable → variablesOf (ls.take (k + 1)) = variablesOf (ls.take k) := fun hk => by
    rw [hset, assign, assignment?_of_kind hk]
  -- below a line that is no head, the draft goes on
  have hbelow : LineKind.of l ≠ .target → (r.rulebookWith ((commandAt? ls k).toList ++ commandsFrom ls (k + 1))).addAll
      ((headsFrom ls (k + 1)).map fun e => ruleAt ls (ofLex e.1).1 e.2) = b := fun hk => by
    rwa [commandsFrom_of_kind hl hk, headsAt_of_kind hl hk, List.nil_append] at hrules
  unfold Reader.feed at hf
  split at hf
  · cases hf
  next a ha =>
  rcases Line.read_cases ha with ⟨hk, rfl⟩ | ⟨hk, rfl⟩ | ⟨hk, rfl⟩ | ⟨x, value, hk, has, rfl⟩
  · -- the line is passed over
    cases hf
    refine ⟨hbind.trans (hkeep (by rw [hk]; decide)).symm, ?_⟩
    have hrules := hbelow (by rw [hk]; decide)
    rwa [commandAt?_of_kind hl (by rw [hk]; decide)] at hrules
  · -- the first of the commands to come moves into the draft
    simp only [accept] at hf
    split at hf
    · cases hf
    next d hd =>
    cases hf
    refine ⟨hbind.trans (hkeep (by rw [hk]; decide)).symm, ?_⟩
    have hrules := hbelow (by rw [hk]; decide)
    rw [commandAt?_of_command hl hk, Option.toList_some, List.singleton_append, rulebookWith_cons hd] at hrules
    rw [hbind]
    exact hrules
  · -- no command is to come for the draft; it is finished, and the new one has the rules of this head
    cases hf
    refine ⟨?_, ?_⟩
    · rw [hkeep (by rw [hk]; decide), ← hbind]
      exact r.finish_bindings
    · rw [commandsFrom_of_target hl hk, rulebookWith_nil, List.map_append, map_ruleAt_headsAt hl hk] at hrules
      rw [← hrules]
      simp [rulebookWith, Rulebook.addAll]
  · cases hf
    refine ⟨?_, ?_⟩
    · rw [hset, assign, has, ← hbind]
    · have hrules := hbelow (by rw [hk]; decide)
      rwa [commandAt?_of_kind hl (by rw [hk]; decide)] at hrules

/-- So does the rest of the description, and at its end nothing lies ahead any more. -/
theorem Ahead.feedAll (h : Ahead ls b k r) {rest : List Text} (hrest : ls.drop k = rest)
    (hf : r.feedAll (k + 1) rest = .ok r') : r'.close = { rulebook := b, bindings := variablesOf ls } := by
  induction rest generalizing k r with
  | nil =>
    cases hf
    have hk : ls.length ≤ k := List.drop_eq_nil_iff.1 hrest
    obtain ⟨hbind, hrules⟩ := h
    rw [commandsFrom_of_length_le hk, rulebookWith_nil, headsFrom_of_length_le hk] at hrules
    rw [List.take_of_length_le hk] at hbind
    rw [close, finish_bindings, hbind, ← hrules]
    rfl
  | cons l rest ih =>
    have hl : ls[k]? = some l := by rw [← List.head?_drop, hrest]; rfl
    have hrest' : ls.drop (k + 1) = rest := by rw [← List.tail_drop, hrest]; rfl
    unfold Reader.feedAll at hf
    split at hf
    · cases hf
    · next r₁ hr₁ => exact ih (h.feed hl hr₁) hrest' (by exact_mod_cast hf)

end Reader

/-- The rules of a description are those of its outline, added in order. -/
theorem parse_eq {source text : Text} {d : Description} (h : parse source text = .ok d) :
    d.rulebook = .ofEntries (fun a x => ruleAt text.lines (ofLex a).1 x) (headsFrom text.lines 0) ∧
      d.bindings = variablesOf text.lines := by
  unfold parse at h
  split at h
  · cases h
  next r hr =>
  cases h
  have hstart : Reader.Ahead text.lines _ 0 {} := ⟨rfl, rfl⟩
  have hclose := hstart.feedAll rfl (by exact_mod_cast hr)
  rw [hclose]
  exact ⟨rfl, rfl⟩

theorem ruleAt_name (ls : List Text) (a : Nat ×ₗ Nat) (x : Name) : (ruleAt ls (ofLex a).1 x).name = x := by
  rw [ruleAt, Rule.ofName_name]

theorem ruleAt_eq (hl : ls[i]? = some l) (x : Name) :
    ruleAt ls i x = Rule.ofName x (tailWords l) (commandsFrom ls (i + 1)) (i + 1) := by
  rw [ruleAt, hl, Option.map_some, Option.getD_some]

section Parse

variable {source text : Text} {d : Description} (h : parse source text = .ok d)

include h

/-- The rule of a name is made by the last line that has it in its head. -/
theorem get?_of_parse {r : Rule} : d.rulebook.get? x = some r ↔
    ∃ i p l, LastHeadAt text.lines x i p ∧ text.lines[i]? = some l ∧
      r = Rule.ofName x (tailWords l) (commandsFrom text.lines (i + 1)) (i + 1) := by
  rw [(parse_eq h).1, Rulebook.get?_ofEntries (ruleAt_name _) pairwise_headsFrom]
  simp only [isGreatest_headsFrom]
  constructor
  · rintro ⟨a, ha, rfl⟩
    obtain ⟨l, hl, -⟩ := id ha.1
    exact ⟨_, _, l, ha, hl, ruleAt_eq hl x⟩
  · rintro ⟨i, p, l, hlast, hl, rfl⟩
    exact ⟨toLex (i, p), hlast, (ruleAt_eq hl x).symm⟩

theorem contains_of_parse : d.rulebook.contains x = true ↔ ∃ i p, HeadAt text.lines x i p := by
  rw [Rulebook.contains_iff]
  constructor
  · rintro ⟨r, hr⟩
    obtain ⟨i, p, l, hlast, -⟩ := (get?_of_parse h).1 hr
    exact ⟨i, p, hlast.1⟩
  · rintro ⟨i, p, hhead⟩
    obtain ⟨a, ha⟩ := Rulebook.exists_isGreatest pairwise_headsFrom (mem_headsFrom (a := toLex (i, p)).2 hhead)
    rw [isGreatest_headsFrom] at ha
    obtain ⟨l, hl, -⟩ := id ha.1
    exact ⟨_, (get?_of_parse h).2 ⟨_, _, l, ha, hl, rfl⟩⟩

/-- The rules are in the order of the last heads that have their names. -/
theorem pairwise_of_parse : d.rulebook.rules.Pairwise fun r r' => ∃ i p j q, LastHeadAt text.lines r.name i p ∧
    LastHeadAt text.lines r'.name j q ∧ (i < j ∨ i = j ∧ p < q) := by
  rw [(parse_eq h).1]
  refine (Rulebook.pairwise_ofEntries (ruleAt_name _) pairwise_headsFrom).imp ?_
  rintro r r' ⟨a, a', ha, ha', hlt⟩
  exact ⟨_, _, _, _, isGreatest_headsFrom.1 ha, isGreatest_headsFrom.1 ha', Prod.Lex.lt_iff.1 hlt⟩

/-- A description that is accepted says what its lines say:

* a rule stands for `x` exactly if `x` is among the words before the colon in the head of some line;
* this rule is that of the last such line: it has the number of the line, the words after the colon as its
  dependencies, and as its commands those of the lines below, up to the next head of a rule; each of them
  has the number of its line and sees the variables that are set above it;
* names whose last head is the same line have the same dependencies and commands;
* the rules are in the order of these lines, and within a line in that of the last places of their names;
* the variables are those that the lines set: above any line, a variable has the value of the last assignment
  to it, which in turn sees the variables that are set above it; and they are in the order of their first
  assignments. -/
theorem parse_reads :
    (∀ x, d.rulebook.contains x = true ↔ ∃ i p, HeadAt text.lines x i p) ∧
    (∀ x r, d.rulebook.get? x = some r ↔ ∃ i p l, LastHeadAt text.lines x i p ∧ text.lines[i]? = some l ∧
      r = Rule.ofName x (tailWords l) (commandsFrom text.lines (i + 1)) (i + 1)) ∧
    (∀ x y i p q r r', LastHeadAt text.lines x i p → LastHeadAt text.lines y i q → d.rulebook.get? x = some r →
      d.rulebook.get? y = some r' → r.dependencies = r'.dependencies ∧ r.commands = r'.commands) ∧
    (d.rulebook.rules.Pairwise fun r r' => ∃ i p j q, LastHeadAt text.lines r.name i p ∧
      LastHeadAt text.lines r'.name j q ∧ (i < j ∨ i = j ∧ p < q)) ∧
    d.bindings = variablesOf text.lines ∧
    (∀ k x v, (variablesOf (text.lines.take k)).get? x = some v ↔ ∃ i value,
      LastAssignedAt (text.lines.take k) x i value ∧ v = expand (variablesOf (text.lines.take i)) value) ∧
    d.bindings.keys.Pairwise fun x y =>
      ∃ i j, FirstAssignedAt text.lines x i ∧ FirstAssignedAt text.lines y j ∧ i < j := by
  refine ⟨fun x => contains_of_parse h, fun x r => get?_of_parse h, fun x y i p q r r' hx hy hr hr' => ?_,
    pairwise_of_parse h, (parse_eq h).2, fun k x v => ?_, ?_⟩
  · obtain ⟨i₁, p₁, l₁, hx₁, hl₁, rfl⟩ := (get?_of_parse h).1 hr
    obtain ⟨i₂, p₂, l₂, hy₂, hl₂, rfl⟩ := (get?_of_parse h).1 hr'
    obtain ⟨rfl, -⟩ := hx.unique hx₁
    obtain ⟨rfl, -⟩ := hy.unique hy₂
    rw [hl₁, Option.some.injEq] at hl₂
    simp [hl₂]
  · rw [get?_variablesOf]
    have htake : ∀ {i value}, LastAssignedAt (text.lines.take k) x i value →
        (text.lines.take k).take i = text.lines.take i := fun {i value} hlast => by
      have hi := hlast.1.lt_length
      rw [List.length_take] at hi
      rw [List.take_take, Nat.min_eq_left (by omega)]
    exact exists₂_congr fun i value => and_congr_right fun hlast => by rw [htake hlast]
  · rw [(parse_eq h).2]
    exact pairwise_keys_variablesOf

end Parse

/-- A variable changes between two commands, and one of the names of their rule is defined again. -/
theorem parse_reads_redefined :
    let text : Text := lit "a b: c # d\n\tmake $(V)\nV = 1\n\n\t@make $(V)\nb:"
    ∃ d r, parse [] text = .ok d ∧ d.rulebook.get? (lit "a") = some r ∧ r.dependencies = [lit "c"] ∧
      r.commands = [{ text := lit "make $(V)", line := some 2 },
        { text := lit "make 1", silent := true, line := some 5 }] ∧
      (∃ p, LastHeadAt text.lines (lit "a") 0 p) ∧ ∃ p, LastHeadAt text.lines (lit "b") 5 p := by
  intro text
  have hrun : (parse [] text).toOption.any (fun d =>
      decide (d.rulebook.get? (lit "a") = some (Rule.ofName (lit "a") [lit "c"]
        [{ text := lit "make $(V)", line := some 2 }, { text := lit "make 1", silent := true, line := some 5 }] 1)) &&
      decide (d.rulebook.get? (lit "b") = some (Rule.ofName (lit "b") [] [] 6))) = true := by
    decide +kernel
  obtain ⟨d, hd, hrules⟩ := (Option.any_eq_true _ _).1 hrun
  rw [Bool.and_eq_true, decide_eq_true_eq, decide_eq_true_eq] at hrules
  have hparse : parse [] text = .ok d := by
    cases hp : parse [] text with
    | error e => simp [hp, Except.toOption] at hd
    | ok d' => simpa [hp, Except.toOption] using hd
  have hget := (parse_reads hparse).2.1
  have hlast : ∀ {x ds cs n}, d.rulebook.get? x = some (Rule.ofName x ds cs (n + 1 : Nat)) →
      ∃ p, LastHeadAt text.lines x n p := by
    intro x ds cs n hx
    obtain ⟨i, p, l, hi, -, hr⟩ := (hget x _).1 hx
    have hline := congrArg Rule.line hr
    simp only [Rule.ofName_line, Option.some.injEq] at hline
    obtain rfl : n = i := by omega
    exact ⟨p, hi⟩
  exact ⟨d, _, hparse, hrules.1, by simp, by simp, hlast hrules.1, hlast hrules.2⟩

end Buildfile.Description
