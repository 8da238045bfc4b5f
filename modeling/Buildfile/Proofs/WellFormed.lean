import Buildfile.Description.Shape
import Buildfile.Proofs.Rejection
/-!
# What is read is well formed

Whatever lines a reader is given, and whether it takes or refuses them, the rules it has finished and the variables
it has set are well formed. Names of rules get their shape from the place in front of the first colon, from the
comment that is cut off and from the check on wildcards; names of variables from the colon that is taken off their
end, as any other colon would have made the line the head of a rule.

The invariant is kept for the number of the next line, so that the commands of a draft stand on lines of their own.
-/

namespace Buildfile

/-! ## Rules -/

theorem Rule.wellFormed_ofName {x : Name} {dependencies : List Name} {commands : List Command} {n : Int}
    {ns : List Int} (hx : IsHeadName x) (hdeps : ∀ d ∈ dependencies, Text.IsWord d)
    (hcommands : commands.map (·.line) = ns.map some) (order : (n :: ns).Pairwise (· < ·)) :
    (Rule.ofName x dependencies commands n).WellFormed := by
  have hlines : (Rule.ofName x dependencies commands n).StandsOn n ns := ⟨by simp, by simpa using hcommands, order⟩
  by_cases hmem : wildcard ∈ x
  · obtain ⟨before, after, rfl, hbefore⟩ := List.eq_append_cons_of_mem hmem
    have hafter : wildcard ∉ after := by
      have hcount := hx.wildcards
      rw [List.count_append, List.count_cons_self] at hcount
      exact List.count_eq_zero.1 (by omega)
    rw [Rule.ofName_append _ _ _ hbefore] at hlines ⊢
    exact ⟨hx, by simp, fun _ => ⟨rfl, hbefore, hafter⟩, by simp, hdeps, n, ns, hlines⟩
  · rw [Rule.ofName_of_not_mem _ _ _ hmem] at hlines ⊢
    exact ⟨hx, by simpa using hmem, by simp, fun _ => ⟨rfl, rfl⟩, hdeps, n, ns, hlines⟩

namespace Description

variable {d : Description} {l u : Text} {x : Name} {n m : Int} {r r' : Reader}

theorem wellFormed_empty : WellFormed {} where
  names := .nil
  stored := by simp [Rulebook.get?]
  rules := nofun
  bindings := nofun

/-- A rule takes the place of an earlier one of its name and leaves all others where they are. -/
theorem WellFormed.add (h : d.WellFormed) {rule : Rule} (hrule : rule.WellFormed) :
    WellFormed { d with rulebook := d.rulebook.add rule } where
  names := Rulebook.nodup_names_add h.names rule
  stored x s := Rulebook.get?_eq_some (Rulebook.nodup_names_add h.names rule)
  rules s hs := by
    rcases Rulebook.mem_rules_add.1 hs with rfl | ⟨-, hs⟩
    · exact hrule
    · exact h.rules s hs
  bindings := h.bindings

theorem WellFormed.addAll (h : d.WellFormed) {rules : List Rule} (hrules : ∀ rule ∈ rules, rule.WellFormed) :
    WellFormed { d with rulebook := d.rulebook.addAll rules } := by
  induction rules generalizing d with
  | nil => exact h
  | cons rule rules ih =>
    exact ih (h.add (hrules rule List.mem_cons_self)) fun s hs => hrules s (List.mem_cons_of_mem _ hs)

theorem WellFormed.set (h : d.WellFormed) (hx : IsVariableName x) (value : Text) :
    WellFormed { d with bindings := d.bindings.set x value } where
  names := h.names
  stored := h.stored
  rules := h.rules
  bindings y hy := by
    by_cases hmem : x ∈ d.bindings.keys
    · rw [Table.keys_set_of_mem _ hmem] at hy
      exact h.bindings y hy
    · rw [Table.keys_set_of_not_mem _ hmem] at hy
      rcases List.mem_append.1 hy with hy | hy
      · exact h.bindings y hy
      · rw [List.mem_singleton] at hy
        exact hy ▸ hx

/-! ## Names in heads of rules -/

/-- No word starts with a `#` where no comment starts. -/
theorem head?_of_mem_words (inside : ∀ s t, u = s ++ '#' :: t → ¬ Fresh s) (hx : x ∈ u.words) :
    x.head? ≠ some '#' := by
  intro hhash
  obtain ⟨y, rfl⟩ := List.head?_eq_some_iff.1 hhash
  obtain ⟨a, b, hsplit, hfresh⟩ := Text.exists_of_mem_words hx
  exact inside a (y ++ b) hsplit hfresh

/-- The names of a head stand in front of the first colon of the line, whether the comment has it or not. -/
theorem head_subset {v : Text} (hl : '\n' ∉ l) (split : l = u ++ ':' :: v) :
    ((dropComment l).breakAt ':').1 ⊆ u := by
  obtain ⟨-, hend⟩ := (uncommented_iff hl).2 rfl
  have hcut : ((dropComment l).breakAt ':').1 <+: dropComment l := List.takeWhile_prefix _
  have hcolon : ':' ∉ ((dropComment l).breakAt ':').1 := fun hmem => by simpa using List.mem_takeWhile_imp hmem
  have hprefix : dropComment l <+: l := by
    rcases hend with heq | ⟨-, w, heq⟩
    · exact heq ▸ List.prefix_rfl
    · exact ⟨_, heq.symm⟩
  obtain ⟨w, hw⟩ := hcut.trans hprefix
  rcases List.append_eq_append_iff.1 (hw.trans split) with ⟨s, hu, -⟩ | ⟨s, hhead, hs⟩
  · intro c hc
    rw [hu]
    exact List.mem_append_left _ hc
  · -- the head does not reach to the colon
    cases s with
    | nil => simp [hhead]
    | cons c s =>
      obtain ⟨rfl, -⟩ := List.cons.inj hs
      rw [hhead] at hcolon
      simp at hcolon

theorem isHeadName_of_mem_headWords (hl : '\n' ∉ l) (hhead : IsHead l) (hx : x ∈ headWords l)
    (hmany : x.count wildcard ≤ 1) : IsHeadName x := by
  obtain ⟨-, -, u, v, split, -, equals, -⟩ := hhead
  obtain ⟨inside, -⟩ := (uncommented_iff hl).2 rfl
  obtain ⟨a, b, hhead, -⟩ := Text.exists_of_mem_words hx
  have hmem : ∀ c ∈ x, c ∈ ((dropComment l).breakAt ':').1 := fun c hc => by simp [hhead, hc]
  refine ⟨Text.isWord_of_mem_words hx, fun hc => ?_, fun hc => ?_, head?_of_mem_words (fun s t hs => ?_) hx, hmany⟩
  · simpa using List.mem_takeWhile_imp (hmem _ hc)
  · exact equals (head_subset hl split (hmem _ hc))
  · refine inside s (t ++ (dropComment l).dropWhile (· != ':')) ?_
    have hjoin := List.takeWhile_append_dropWhile (p := (· != ':')) (l := dropComment l)
    change ((dropComment l).breakAt ':').1 ++ _ = _ at hjoin
    rw [hs, List.append_assoc] at hjoin
    exact hjoin.symm

/-! ## Names of variables -/

/-- A colon at the end of the name is taken off. -/
theorem variableName_concat_colon (a : Text) : Line.variableName (a ++ [':']) = a.trim := by
  have hcolon : isBlank ':' = false := by decide
  have htrim : Text.trim (a ++ [':']) = a.trimStart ++ [':'] := by
    unfold Text.trim
    by_cases hnil : a.trimStart = []
    · rw [Text.trimStart_append (Text.trimStart_eq_nil_iff.1 hnil), Text.trimStart_cons hcolon, hnil]
      exact Text.trimEnd_concat hcolon []
    · rw [Text.trimStart_append_of_ne_nil hnil]
      exact Text.trimEnd_concat hcolon _
  unfold Line.variableName
  rw [htrim]
  simp [Text.trim]

theorem variableName_of_not_mem (h : ':' ∉ u) : Line.variableName u = u.trim := by
  unfold Line.variableName
  refine if_neg fun hlast => h ?_
  exact Text.mem_of_mem_trim (List.mem_of_getLast? hlast)

/-- What trimming leaves of a text without marks names a variable, unless it is nothing. -/
theorem isVariableName_trim (hne : u.trim ≠ []) (colon : ':' ∉ u) (equals : '=' ∉ u) : IsVariableName u.trim :=
  ⟨hne, Text.trimmed_trim u, mt Text.mem_of_mem_trim colon, mt Text.mem_of_mem_trim equals⟩

theorem isVariableName_of_assignment? {value : Text} (h : assignment? l = some (x, value)) (hx : x ≠ []) :
    IsVariableName x := by
  unfold assignment? at h
  split at h
  next hkind =>
    obtain ⟨rfl, -⟩ := Prod.mk.inj (Option.some.inj h)
    have hvariable := LineKind.of_eq_iff.1 hkind
    cases hvariable with
    | «variable» said untabbed hhead hmem =>
      obtain ⟨u, v, rfl, equals⟩ := List.eq_append_cons_of_mem hmem
      rw [Text.breakAt_append equals] at hx ⊢
      by_cases hcolon : ':' ∈ u
      · obtain ⟨a, b, rfl, colon⟩ := List.eq_append_cons_of_mem hcolon
        have ha : '=' ∉ a := fun hmem => equals (by simp [hmem])
        -- the line would be the head of a rule if anything stood between the two marks
        cases b with
        | nil =>
          rw [variableName_concat_colon] at hx ⊢
          exact isVariableName_trim hx colon ha
        | cons c b =>
          refine absurd ⟨said, untabbed, a, c :: b ++ '=' :: v, by simp, colon, ha, ?_⟩ hhead
          simpa using fun hc : c = '=' => equals (by simp [hc])
      · rw [variableName_of_not_mem hcolon] at hx ⊢
        exact isVariableName_trim hx hcolon equals
  next => cases h

/-! ## Lines -/

/-- The names in a head that is understood have passed the check on wildcards. -/
theorem Line.count_wildcard_of_read {names dependencies : List Name}
    (h : Line.read l = .ok (.heading names dependencies)) (hx : x ∈ names) : x.count wildcard ≤ 1 := by
  rcases Line.read_cases h with ⟨-, ha⟩ | ⟨-, ha⟩ | ⟨hkind, ha⟩ | ⟨_, _, -, -, ha⟩ <;> cases ha
  have hne : Text.words ((dropComment l).breakAt ':').1 ≠ [] := List.ne_nil_of_mem hx
  unfold Line.read at h
  rw [hkind] at h
  dsimp only at h
  rw [Line.ofHeading_of_ne_nil hne] at h
  cases hmany : Line.manyWildcards? (Text.words ((dropComment l).breakAt ':').1) with
  | some w =>
    rw [hmany] at h
    cases h
  | none => simpa using List.find?_eq_none.1 hmany x hx

theorem Line.ne_nil_of_read {value : Text} (h : Line.read l = .ok (.assignment x value)) : x ≠ [] := by
  rintro rfl
  rcases Line.read_cases h with ⟨-, ha⟩ | ⟨-, ha⟩ | ⟨-, ha⟩ | ⟨y, _, hkind, hassign, ha⟩ <;> cases ha
  rw [assignment?, if_pos hkind, Option.some.injEq, Prod.mk.injEq] at hassign
  unfold Line.read at h
  rw [hkind] at h
  dsimp only at h
  rw [Line.ofAssignment_error_iff.2 ⟨rfl, hassign.1⟩] at h
  cases h

/-! ## Readers -/

/-- What is known of a draft when the next line has number `n`. -/
structure Draft.WellFormed (d : Draft) (n : Int) : Prop where
  names : ∀ x ∈ d.names, IsHeadName x
  dependencies : ∀ x ∈ d.dependencies, Text.IsWord x
  lines : ∃ ns, d.commands.map (·.line) = ns.map some ∧ (d.line :: ns).Pairwise (· < ·) ∧ ∀ k ∈ d.line :: ns, k < n

theorem Draft.WellFormed.mono {d : Draft} (h : d.WellFormed n) (hnm : n ≤ m) : d.WellFormed m := by
  obtain ⟨names, dependencies, ns, hns, order, hlt⟩ := h
  exact ⟨names, dependencies, ns, hns, order, fun k hk => lt_of_lt_of_le (hlt k hk) hnm⟩

theorem Draft.WellFormed.rules {d : Draft} (h : d.WellFormed n) : ∀ rule ∈ d.rules, rule.WellFormed := by
  intro rule hrule
  obtain ⟨x, hx, rfl⟩ := List.mem_map.1 hrule
  obtain ⟨ns, hns, order, -⟩ := h.lines
  exact Rule.wellFormed_ofName (h.names x hx) h.dependencies hns order

/-- A command on the next line belongs behind the others. -/
theorem Draft.WellFormed.concat {d : Draft} (h : d.WellFormed n) (text : Text) (silent : Bool) :
    Draft.WellFormed { d with commands := d.commands ++ [{ text, silent, line := some n }] } (n + 1) := by
  obtain ⟨names, dependencies, ns, hns, order, hlt⟩ := h
  refine ⟨names, dependencies, ns ++ [n], by simp [hns], ?_, fun k hk => ?_⟩
  · rw [← List.cons_append]
    exact List.pairwise_append.2 ⟨order, List.pairwise_singleton _ _, by simpa using hlt⟩
  · rw [← List.cons_append, List.mem_append, List.mem_singleton] at hk
    rcases hk with hk | rfl
    · exact (hlt k hk).trans (by omega)
    · omega

namespace Reader

/-- What is known of a reader when the next line has number `n`. -/
structure WellFormed (r : Reader) (n : Int) : Prop where
  soFar : r.soFar.WellFormed
  draft : ∀ d, r.draft = some d → d.WellFormed n

theorem wellFormed_empty (n : Int) : WellFormed {} n := ⟨Description.wellFormed_empty, nofun⟩

theorem WellFormed.mono (h : r.WellFormed n) (hnm : n ≤ m) : r.WellFormed m :=
  ⟨h.soFar, fun d hd => (h.draft d hd).mono hnm⟩

theorem WellFormed.finish (h : r.WellFormed n) : r.finish.WellFormed n := by
  unfold Reader.finish
  cases hd : r.draft with
  | none => exact h
  | some d => exact ⟨h.soFar.addAll (h.draft d hd).rules, nofun⟩

theorem WellFormed.feed (h : r.WellFormed n) (hl : '\n' ∉ l) (hf : r.feed n l = .ok r') : r'.WellFormed (n + 1) := by
  have hnext : n ≤ n + 1 := by omega
  unfold Reader.feed at hf
  cases ha : Line.read l with
  | error f =>
    rw [ha] at hf
    cases hf
  | ok a =>
    rw [ha] at hf
    dsimp only at hf
    rcases Line.read_cases ha with ⟨-, rfl⟩ | ⟨-, rfl⟩ | ⟨hkind, rfl⟩ | ⟨x, value, hkind, hassign, rfl⟩
    · cases hf
      exact h.mono hnext
    · unfold Reader.accept at hf
      cases hd : r.draft with
      | none =>
        rw [hd] at hf
        cases hf
      | some d =>
        rw [hd] at hf
        cases hf
        refine ⟨h.soFar, ?_⟩
        rintro d' ⟨⟩
        exact (h.draft d hd).concat _ _
    · cases hf
      refine ⟨h.finish.soFar, ?_⟩
      rintro d ⟨⟩
      have hhead := isHead_iff.2 hkind
      refine ⟨fun x hx => isHeadName_of_mem_headWords hl hhead hx (Line.count_wildcard_of_read ha hx),
        fun x hx => Text.isWord_of_mem_words hx, [], rfl, List.pairwise_singleton _ _, fun k hk => ?_⟩
      rw [List.mem_singleton.1 hk]
      exact Int.lt_succ n
    · cases hf
      have hx := isVariableName_of_assignment? hassign (Line.ne_nil_of_read ha)
      exact ⟨h.soFar.set hx _, (h.mono hnext).draft⟩

/-! ## Runs of offers -/

theorem offerAll_append (r : Reader) (os os' : List Offer) :
    (r.offerAll (os ++ os')).2 = ((r.offerAll os).2.offerAll os').2 := by
  induction os generalizing r with
  | nil => rfl
  | cons o os ih => exact ih _

theorem WellFormed.offerAll_lines (h : r.WellFormed n) {ls : List Text} (hls : ∀ l ∈ ls, '\n' ∉ l) :
    (r.offerAll (Offer.lines n ls)).2.WellFormed (n + ls.length) := by
  induction ls generalizing r n with
  | nil => exact h.mono (by simp)
  | cons l ls ih =>
    have hfed : (r.offer (.line n l)).2.WellFormed (n + 1) := by
      rw [offer_line]
      cases hf : r.feed n l with
      | ok r' => exact h.feed (hls l List.mem_cons_self) hf
      | error f => exact h.mono (by omega)
    have hrest := ih hfed fun l' hl' => hls l' (List.mem_cons_of_mem _ hl')
    have hlength : n + 1 + (ls.length : Int) = n + ((l :: ls).length : Int) := by
      rw [List.length_cons]
      omega
    exact hlength ▸ hrest

/-- A reader that takes all lines in one go is the one that is offered them. -/
theorem offerAll_of_feedAll {ls : List Text} (h : r.feedAll n ls = .ok r') :
    (r.offerAll (Offer.lines n ls)).2 = r' := by
  induction ls generalizing r n with
  | nil =>
    cases h
    rfl
  | cons l ls ih =>
    obtain ⟨next, hfeed, hrest⟩ := feedAll_cons_eq_ok_iff.1 h
    have hoffer : (r.offer (.line n l)).2 = next := by rw [offer_line, hfeed]
    change ((r.offer (.line n l)).2.offerAll (Offer.lines (n + 1) ls)).2 = r'
    rw [hoffer]
    exact ih hrest

theorem offerAll_close (r : Reader) (os : List Offer) : (r.offerAll (os ++ [.close])).2 = (r.offerAll os).2.finish := by
  rw [offerAll_append]
  exact congrArg Prod.snd (offer_close _)

end Reader

theorem newline_not_mem_lines {text l : Text} (hl : l ∈ text.lines) : '\n' ∉ l :=
  Text.newline_not_mem (Text.unbroken_of_mem_lines hl)

/-- A description that is read is what a reader has read that was offered its lines and its end. -/
theorem eq_soFar_of_parse {source text : Text} {d : Description} (h : parse source text = .ok d) :
    d = (Reader.offerAll {} (Offer.lines 1 text.lines ++ [.close])).2.soFar := by
  unfold parse at h
  cases hf : Reader.feedAll {} 1 text.lines with
  | error e =>
    rw [hf] at h
    cases h
  | ok r =>
    rw [hf] at h
    cases h
    rw [Reader.offerAll_close, Reader.offerAll_of_feedAll hf]
    rfl

/-- A description that is read is well formed. -/
theorem wellFormed_of_parse {source text : Text} {d : Description} (h : parse source text = .ok d) : d.WellFormed := by
  have hlines : ∀ l ∈ text.lines, '\n' ∉ l := fun l hl => newline_not_mem_lines hl
  rw [eq_soFar_of_parse h, Reader.offerAll_close]
  exact ((Reader.wellFormed_empty 1).offerAll_lines hlines).finish.soFar

/-- Whatever lines of a text are offered to a reader, and whether it takes or refuses them, what it has read so far is
well formed, also when it is then told that the description ends. So is every description that is read. -/
theorem offered_wellFormed (text : Text) (n : Int) (k : Nat) :
    (Reader.offerAll {} (Offer.lines n (text.lines.take k))).2.soFar.WellFormed ∧
    (Reader.offerAll {} (Offer.lines n (text.lines.take k) ++ [.close])).2.soFar.WellFormed ∧
    ∀ source d, parse source text = .ok d → d.WellFormed := by
  have htake : ∀ l ∈ text.lines.take k, '\n' ∉ l := fun l hl => newline_not_mem_lines (List.mem_of_mem_take hl)
  have hreader := (Reader.wellFormed_empty n).offerAll_lines htake
  refine ⟨hreader.soFar, ?_, fun source d hd => wellFormed_of_parse hd⟩
  rw [Reader.offerAll_append]
  change (Reader.offer _ .close).2.soFar.WellFormed
  rw [Reader.offer_close]
  exact hreader.finish.soFar

end Description

end Buildfile
