import Buildfile.Description.Writing
import Buildfile.Proofs.Comments
import Buildfile.Proofs.Reading
/-!
# A description is read as it was written

Clauses that can be written down are read back: each line is taken for what it was written as (`Clause.read_heading`,
`Instruction.read_line`), the lines of a clause lead to its draft, and the next clause or the end of the description
turns that into its rules.
-/

namespace Buildfile.Description

variable {c : Clause} {cs : List Clause} {i : Instruction} {is : List Instruction} {ws : List Name} {d : Draft}
  {n : Int} {r r' : Reader} {ls : List Text}

/-! ## Joined words -/

theorem isBlank_of_isLineBreak {e : Char} (h : isLineBreak e = true) : isBlank e = true := by
  simp only [isLineBreak, Bool.or_eq_true, Bool.and_eq_true, decide_eq_true_eq, beq_iff_eq] at h
  simp only [isBlank, blankRanges, List.any_cons, List.any_nil, Bool.or_false, Bool.or_eq_true, Bool.and_eq_true,
    decide_eq_true_eq]
  omega

theorem unbroken_of_isWord {x : Text} (h : x.IsWord) : x.Unbroken := by
  intro e he
  have hblank := h.2 e he
  cases hbreak : isLineBreak e with
  | false => rfl
  | true =>
    rw [isBlank_of_isLineBreak hbreak] at hblank
    cases hblank

theorem uncommented_intercalate (words : ∀ x ∈ ws, Text.IsWord x) (comment : ∀ x ∈ ws, x.head? ≠ some '#') :
    Uncommented ([' '].intercalate ws) ([' '].intercalate ws) := by
  refine uncommented_self_iff.2 (not_fresh_of_words ?_)
  rwa [Text.words_intercalate (by decide) words]

theorem unbroken_intercalate (words : ∀ x ∈ ws, Text.IsWord x) : Text.Unbroken ([' '].intercalate ws) := by
  intro e he
  rcases Text.mem_intercalate he with rfl | ⟨x, hx, hmem⟩
  · decide
  · exact unbroken_of_isWord (words x hx) e hmem

/-! ## Headings -/

namespace Clause.Writable

theorem not_mem_names (h : c.Writable) {e : Char} (he : e ≠ ' ') (hnames : ∀ x, IsHeadName x → e ∉ x) :
    e ∉ [' '].intercalate c.names := by
  intro hmem
  rcases Text.mem_intercalate hmem with rfl | ⟨x, hx, hmem⟩
  · exact he rfl
  · exact hnames x (h.names x hx) hmem

theorem words_names (h : c.Writable) : Text.words ([' '].intercalate c.names) = c.names :=
  Text.words_intercalate (by decide) fun x hx => (h.names x hx).word

theorem words_dependencies (h : c.Writable) :
    Text.words (' ' :: [' '].intercalate c.dependencies) = c.dependencies := by
  have hblank : isBlank ' ' = true := by decide
  rw [Text.words_cons_of_isBlank hblank, Text.words_intercalate hblank fun x hx => (h.dependencies x hx).1]

theorem uncommented_heading (h : c.Writable) : Uncommented c.heading c.heading := by
  have hnames := uncommented_intercalate (fun x hx => (h.names x hx).word) fun x hx => (h.names x hx).comment
  have hdependencies :=
    uncommented_intercalate (fun x hx => (h.dependencies x hx).1) fun x hx => (h.dependencies x hx).2
  have hnil : Uncommented [] [] := uncommented_self_iff.2 (by simp)
  exact hnames.append_cons (by decide) (hnil.append_cons (by decide) hdependencies)

theorem of_heading (h : c.Writable) : LineKind.of c.heading = .target := by
  refine LineKind.of_head ⟨h.uncommented_heading.not_passed fun hblanks => ?_, fun htab => ?_, _, _, rfl,
    h.not_mem_names (by decide) fun x hx => hx.colon, h.not_mem_names (by decide) fun x hx => hx.equals, by simp⟩
  · have hcolon := hblanks ':' (by simp [heading])
    revert hcolon
    decide
  · -- the first character belongs to a name, or is the colon
    have hmem : '\t' ∉ [' '].intercalate c.names := by
      refine h.not_mem_names (by decide) fun x hx hmem => ?_
      have hblank := hx.word.2 '\t' hmem
      revert hblank
      decide
    unfold heading at htab
    cases hnames : [' '].intercalate c.names with
    | nil =>
      rw [hnames] at htab
      simp at htab
    | cons e u =>
      rw [hnames] at htab hmem
      simp at htab hmem
      exact hmem.1 htab.symm

theorem unbroken_heading (h : c.Writable) : c.heading.Unbroken := by
  have hnames := unbroken_intercalate fun x hx => (h.names x hx).word
  have hdependencies := unbroken_intercalate fun x hx => (h.dependencies x hx).1
  refine Text.unbroken_append.2 ⟨hnames, ?_⟩
  rw [Text.unbroken_cons, Text.unbroken_cons]
  exact ⟨by decide, by decide, hdependencies⟩

/-- A heading is read as its names and dependencies. -/
theorem read_heading (h : c.Writable) : Line.read c.heading = .ok (.heading c.names c.dependencies) := by
  have hline : '\n' ∉ c.heading := Text.newline_not_mem h.unbroken_heading
  have hcomment : c.heading = dropComment c.heading := (uncommented_iff hline).1 h.uncommented_heading
  have hbreak : c.heading.breakAt ':' = ([' '].intercalate c.names, ' ' :: [' '].intercalate c.dependencies) :=
    Text.breakAt_append (h.not_mem_names (by decide) fun x hx => hx.colon) _
  have hmany : Line.manyWildcards? c.names = none := by
    refine List.find?_eq_none.2 fun x hx => ?_
    have hcount := (h.names x hx).wildcards
    simpa using hcount
  unfold Line.read
  rw [h.of_heading]
  dsimp only
  rw [← hcomment, Line.ofHeading_of_ne_nil, hbreak]
  · dsimp only
    rw [h.words_names, h.words_dependencies, hmany]
  · rw [hbreak]
    dsimp only
    rw [h.words_names]
    exact h.named

end Clause.Writable

/-! ## Instructions -/

namespace Instruction.Writable

/-- Behind its tab, an instruction starts with a character that is neither a blank nor the start of a comment. -/
theorem exists_body_eq (h : i.Writable) : ∃ e t, i.body = e :: t ∧ isBlank e = false ∧ e ≠ '#' := by
  unfold body
  cases hsilent : i.silent with
  | true => exact ⟨'@', i.text, rfl, by decide, by decide⟩
  | false =>
    obtain ⟨hne, -, hcomment⟩ := h.shown hsilent
    obtain ⟨e, t, ht⟩ := List.exists_cons_of_ne_nil hne
    refine ⟨e, t, by simp [ht], h.trimmed.1 e (by rw [ht]; rfl), ?_⟩
    rintro rfl
    exact hcomment (by rw [ht]; rfl)

theorem trimmed_body (h : i.Writable) : i.body.Trimmed := by
  refine ⟨fun e he => ?_, fun e he => ?_⟩
  · obtain ⟨e', t, hbody, hblank, -⟩ := h.exists_body_eq
    rw [hbody] at he
    obtain rfl : e' = e := by simpa using he
    exact hblank
  · unfold body at he
    split at he
    · cases htext : i.text with
      | nil =>
        rw [htext] at he
        obtain rfl : '@' = e := by simpa using he
        decide
      | cons e' t =>
        rw [htext, List.getLast?_cons_cons, ← htext] at he
        exact h.trimmed.2 e he
    · exact h.trimmed.2 e he

theorem of_line (h : i.Writable) : LineKind.of i.line = .command := by
  refine LineKind.of_tab (fun hpassed => ?_) rfl
  obtain ⟨e, t, hbody, hblank, hcomment⟩ := h.exists_body_eq
  have htab : Text.Blanks ['\t'] := by decide
  have hstart : i.line.trimStart = e :: t := by
    unfold line
    rw [hbody, ← List.singleton_append, Text.trimStart_append htab, Text.trimStart_cons hblank]
  rw [passed_iff, hstart] at hpassed
  simp [hcomment] at hpassed

/-- An instruction is read as the command it stands for. -/
theorem read_line (h : i.Writable) : Line.read i.line = .ok (.command i.silent i.text) := by
  have htrim : i.body.trim = i.body := Text.trim_eq_self h.trimmed_body
  have htext : i.text.trim = i.text := Text.trim_eq_self h.trimmed
  have hcommand : Line.ofCommand i.body = .command i.silent i.text := by
    unfold Line.ofCommand
    rw [htrim]
    unfold body
    cases hsilent : i.silent with
    | true => simp [htext]
    | false =>
      obtain ⟨-, hmark, -⟩ := h.shown hsilent
      rw [if_neg (by simp)]
      split
      · next rest hrest =>
        rw [hrest] at hmark
        exact absurd rfl hmark
      · rfl
  unfold Line.read
  rw [h.of_line]
  dsimp only
  rw [← hcommand]
  rfl

theorem unbroken_line (h : i.Writable) : i.line.Unbroken := by
  have htext : i.text.Unbroken := h.unbroken
  unfold line body
  rw [Text.unbroken_cons]
  refine ⟨by decide, ?_⟩
  split
  · exact Text.unbroken_cons.2 ⟨by decide, htext⟩
  · exact htext

end Instruction.Writable

/-! ## Readers -/

namespace Reader

theorem feedAll_append (h : r.feedAll n ls = .ok r') (rest : List Text) :
    r.feedAll n (ls ++ rest) = r'.feedAll (n + ls.length) rest := by
  induction ls generalizing r n with
  | nil =>
    cases h
    simp
  | cons l ls ih =>
    obtain ⟨next, hfeed, hrest⟩ := feedAll_cons_eq_ok_iff.1 h
    have hlength : n + ((l :: ls).length : Int) = n + 1 + ls.length := by
      rw [List.length_cons]
      omega
    rw [List.cons_append, feedAll_cons_of_ok hfeed, hlength]
    exact ih hrest

/-- No variable is set, so the texts of instructions stay as they are written. -/
theorem feed_line (h : i.Writable) (hd : r.draft = some d) (hb : r.bindings = {}) : r.feed n i.line =
    .ok { r with draft := some { d with
      commands := d.commands ++ [{ text := i.text, silent := i.silent, line := some n }] } } := by
  unfold feed
  rw [h.read_line]
  simp only [accept, hd, hb, expand_empty]

theorem feedAll_instructions (h : ∀ i ∈ is, i.Writable) (hd : r.draft = some d) (hb : r.bindings = {}) :
    r.feedAll n (is.map Instruction.line) =
      .ok { r with draft := some { d with commands := d.commands ++ Instruction.commands n is } } := by
  induction is generalizing r d n with
  | nil =>
    rw [Instruction.commands, List.append_nil, ← hd]
    rfl
  | cons i is ih =>
    have hrest := fun j hj => h j (List.mem_cons_of_mem i hj)
    let command : Command := { text := i.text, silent := i.silent, line := some n }
    let next : Draft := { d with commands := d.commands ++ [command] }
    have hnext := ih (r := { r with draft := some next }) (n := n + 1) hrest rfl hb
    rw [List.map_cons, feedAll_cons_of_ok (feed_line (h i List.mem_cons_self) hd hb)]
    refine hnext.trans ?_
    simp [next, command, Instruction.commands]

/-- The lines of a clause finish the draft above them and lead to a new one. -/
theorem feedAll_clause (h : c.Writable) (hb : r.bindings = {}) :
    r.feedAll n c.lines = .ok { r.finish with draft := some (c.draft n) } := by
  let start : Draft := { names := c.names, dependencies := c.dependencies, line := n }
  have hheading : r.feed n c.heading = .ok { r.finish with draft := some start } := by
    unfold feed
    rw [h.read_heading]
    rfl
  have hempty : r.finish.bindings = {} := (finish_bindings r).trans hb
  have hlines :=
    feedAll_instructions (r := { r.finish with draft := some start }) (n := n + 1) h.instructions rfl hempty
  exact (feedAll_cons_of_ok hheading _).trans hlines

theorem finish_eq (hb : r.bindings = {}) : r.finish = { rulebook := r.finish.rulebook } := by
  obtain ⟨rulebook, bindings, draft⟩ := r
  obtain rfl : bindings = {} := hb
  cases draft <;> rfl

/-- After the lines of clauses, their rules only wait for the end of the description. -/
theorem feedAll_written (h : ∀ c ∈ cs, c.Writable) (hb : r.bindings = {}) : ∃ r', r.feedAll n (written cs) = .ok r' ∧
    r'.finish = { rulebook := r.finish.rulebook.addAll (rulesFrom n cs) } := by
  induction cs generalizing r n with
  | nil => exact ⟨r, rfl, finish_eq hb⟩
  | cons c cs ih =>
    have hclause := feedAll_clause (n := n) (h c List.mem_cons_self) hb
    obtain ⟨r', hr', hfinish⟩ := ih (r := { r.finish with draft := some (c.draft n) }) (n := n + c.lines.length)
      (fun c' hc' => h c' (List.mem_cons_of_mem _ hc')) ((finish_bindings r).trans hb)
    refine ⟨r', ?_, ?_⟩
    · unfold written
      rw [List.flatMap_cons, feedAll_append hclause]
      exact hr'
    · rw [hfinish, rulesFrom]
      simp [finish, Rulebook.addAll]

end Reader

/-! ## Descriptions -/

/-- Clauses that can be written down are read back. A text with their lines exists, and every such text is accepted and
holds their rules, added in order, and no variables: no character of a name, a dependency or a command is taken for a
comment, an assignment, a reference, a mark for silence or a line break. -/
theorem written_read (cs : List Clause) (h : ∀ c ∈ cs, c.Writable) :
    Text.lines ((written cs).flatMap (· ++ ['\n'])) = written cs ∧
    ∀ source t, Text.lines t = written cs →
      parse source t = .ok { rulebook := ({} : Rulebook).addAll (rulesFrom 1 cs), bindings := {} } := by
  constructor
  · refine Text.lines_flatMap_newline fun l hl => ?_
    obtain ⟨c, hc, hl⟩ := List.mem_flatMap.1 hl
    rcases List.mem_cons.1 hl with rfl | hl
    · exact (h c hc).unbroken_heading
    · obtain ⟨i, hi, rfl⟩ := List.mem_map.1 hl
      exact ((h c hc).instructions i hi).unbroken_line
  · intro source t ht
    obtain ⟨r, hr, hfinish⟩ := Reader.feedAll_written (n := 1) (r := {}) h rfl
    unfold parse
    rw [ht, hr]
    dsimp only
    rw [Reader.close, hfinish]
    rfl

/-- Marks inside dependencies and commands are nothing but characters. -/
theorem written_read_marks :
    parse (lit "Buildfile") (lit "%.o all: a#b x:=y %.c $(Z)\n\techo $(Z) # a: b = c\n\t@\n\t@#\nall: \n") =
      .ok { rulebook := ⟨[
        .ofName (lit "%.o") [lit "a#b", lit "x:=y", lit "%.c", lit "$(Z)"]
          [{ text := lit "echo $(Z) # a: b = c", line := some 2 }, { text := [], silent := true, line := some 3 },
            { text := lit "#", silent := true, line := some 4 }] 1,
        .ofName (lit "all") [] [] 5]⟩ } := by
  have h := written_read [
    { names := [lit "%.o", lit "all"], dependencies := [lit "a#b", lit "x:=y", lit "%.c", lit "$(Z)"],
      instructions := [{ text := lit "echo $(Z) # a: b = c" }, { text := [], silent := true },
        { text := lit "#", silent := true }] },
    { names := [lit "all"] }] (by decide +kernel)
  rw [h.2 _ _ (by decide +kernel)]
  decide +kernel

end Buildfile.Description
