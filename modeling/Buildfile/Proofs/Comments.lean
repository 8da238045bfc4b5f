import Buildfile.Proofs.Grammar
import Buildfile.Proofs.Rejection
import Mathlib.Data.List.Basic
/-!
# Comments behind a line

What a comment changes that stands behind a line, a blank in front of its `#`. It adds nothing to a line that
has a colon or an equals sign of its own. A line that has neither is told apart by the comment: the first
colon or equals sign in there makes it the head of a rule or an assignment.

A head of a rule, whether it is accepted or not, means the same with a comment as without.
-/

namespace Buildfile.Description

variable {above : List Text} {l u a b c : Text} {w m d : Char} {f : Fault}

/-- The line `u` and behind it a blank `w` and a comment. -/
def withComment (u : Text) (w : Char) (c : Text) : Text := u ++ w :: '#' :: c

theorem withComment_append (u : Text) (w : Char) (a b : Text) : withComment u w (a ++ b) = withComment u w a ++ b := by
  simp [withComment]

theorem not_mem_withComment (hu : d ∉ u) (hw : w ≠ d) (hd : d ≠ '#') (hc : d ∉ c) : d ∉ withComment u w c := by
  simp [withComment, hu, hw.symm, hd, hc]

/-! ## The kind of a line with a comment -/

theorem not_passed_append (said : ¬ Passed u) (v : Text) : ¬ Passed (u ++ v) := by
  rw [passed_iff, not_or] at said ⊢
  obtain ⟨hne, hhead⟩ := said
  rw [Text.trimStart_append_of_ne_nil hne, List.head?_append_of_ne_nil _ hne]
  simp [hne, hhead]

theorem head?_append_of_not_passed (said : ¬ Passed u) (v : Text) : (u ++ v).head? = u.head? := by
  refine List.head?_append_of_ne_nil _ ?_
  rintro rfl
  exact said ⟨[], [], rfl, nofun, .inl rfl⟩

/-- A blank and more behind it do not change the kind of a line that has one. -/
theorem LineKind.of_append_blank (said : ¬ Passed u) (hw : isBlank w = true) (hu : of u ≠ .invalid) (t : Text) :
    of (u ++ w :: t) = of u := by
  have said' := not_passed_append said (w :: t)
  have hhead : (u ++ w :: t).head? = u.head? := head?_append_of_not_passed said _
  by_cases tab : u.head? = some '\t'
  · rw [of_tab said tab, of_tab said' (hhead.trans tab)]
  have untabbed' : (u ++ w :: t).head? ≠ some '\t' := by rwa [hhead]
  rcases first_mark u with ⟨colon, equals⟩ | ⟨a, m, b, hsplit, mark, colon, equals⟩
  · exact absurd (of_unmarked said tab colon equals) hu
  · have hsplit' : u ++ w :: t = a ++ m :: (b ++ w :: t) := by rw [hsplit]; simp
    have hw' : w ≠ '=' := Text.ne_of_isBlank hw (by decide)
    have hnext : (b ++ w :: t).head? ≠ some '=' ↔ b.head? ≠ some '=' := by
      cases b with
      | nil => simp [hw']
      | cons d b => simp
    rw [of_marked said tab hsplit mark colon equals, of_marked said' untabbed' hsplit' mark colon equals]
    simp only [hnext]

theorem HasKind.append_blank {k : LineKind} (h : HasKind u k) (hskip : k ≠ .skip) (hinvalid : k ≠ .invalid)
    (hw : isBlank w = true) (t : Text) : HasKind (u ++ w :: t) k := by
  rw [← LineKind.of_eq_iff] at h ⊢
  subst h
  refine LineKind.of_append_blank ?_ hw hinvalid t
  intro hpassed
  exact hskip (LineKind.of_passed hpassed)

/-! ## A flaw of the line itself -/

theorem breakAt_append_of_mem (h : d ∈ u) (v : Text) : (Text.breakAt d (u ++ v)).1 = (Text.breakAt d u).1 := by
  obtain ⟨a, b, rfl, ha⟩ := List.eq_append_cons_of_mem h
  rw [List.append_assoc, List.cons_append, Text.breakAt_append ha, Text.breakAt_append ha]

/-- The text before a comment is that before the first of two comments; without a first one it is the whole
line and the blank. -/
theorem Uncommented.append_comment (h : Uncommented l u) (hw : isBlank w = true) (c : Text) :
    Uncommented (withComment l w c) u ∨ l = u ∧ Uncommented (withComment l w c) (l ++ [w]) := by
  obtain ⟨hinside, hend⟩ := h
  rcases hend with rfl | ⟨hfresh, v, rfl⟩
  · refine .inr ⟨rfl, ?_, .inr ⟨fresh_concat.2 hw, c, by simp [withComment]⟩⟩
    intro s t hs
    rcases List.eq_nil_or_concat t with rfl | ⟨t, d, rfl⟩
    · -- the blank is no `#`
      obtain ⟨-, hw'⟩ := List.append_inj' hs rfl
      obtain rfl : w = '#' := by simpa using hw'
      exact absurd hw (by decide)
    · rw [List.concat_eq_append, ← List.cons_append, ← List.append_assoc] at hs
      obtain ⟨hl, -⟩ := List.append_inj' hs rfl
      exact hinside s t hl
  · exact .inl ⟨hinside, .inr ⟨hfresh, v ++ w :: '#' :: c, by simp [withComment]⟩⟩

/-- The names that the head of a rule has before its colon are the same with a comment behind it. -/
theorem IsHead.names_append_comment (h : IsHead l) (hl : Uncommented l u) (hw : isBlank w = true) (c : Text) :
    ∃ u', Uncommented (withComment l w c) u' ∧ (u'.breakAt ':').1 = (u.breakAt ':').1 := by
  rcases hl.append_comment hw c with hsame | ⟨rfl, hwhole⟩
  · exact ⟨u, hsame, rfl⟩
  · have hcolon : ':' ∈ l := by
      obtain ⟨-, -, a, b, rfl, -⟩ := h
      simp
    exact ⟨l ++ [w], hwhole, breakAt_append_of_mem hcolon [w]⟩

/-- A line with a flaw other than that it has neither a colon nor an equals sign keeps it. -/
theorem Flaw.append_comment (h : Flaw above l f) (hf : ∀ indented, f ≠ .unrecognised indented)
    (hw : isBlank w = true) (c : Text) : Flaw above (withComment l w c) f := by
  have hkind : ∀ {k}, HasKind l k → k ≠ .skip → k ≠ .invalid → HasKind (withComment l w c) k :=
    fun hk hskip hinvalid => hk.append_blank hskip hinvalid hw _
  have hhead : HasKind l .target → IsHead l := by
    rintro ⟨⟩
    assumption
  cases h with
  | orphan kind first => exact .orphan (hkind kind nofun nofun) first
  | unrecognised kind => exact absurd rfl (hf _)
  | nameless kind comment names =>
    obtain ⟨u', hu', hnames⟩ := (hhead kind).names_append_comment comment hw c
    rw [← hnames] at names
    exact .nameless (hkind kind nofun nofun) hu' names
  | wildcards kind comment names fine many =>
    obtain ⟨u', hu', hnames⟩ := (hhead kind).names_append_comment comment hw c
    rw [← hnames] at names
    exact .wildcards (hkind kind nofun nofun) hu' names fine many
  | @unnamed a b kind split equals name =>
    have split' : withComment l w c = a ++ '=' :: withComment b w c := by
      rw [split, withComment, List.append_assoc, List.cons_append]
      rfl
    exact .unnamed (hkind kind nofun nofun) split' equals name

/-- Every reader may stand below some lines. -/
theorem Reader.exists_openBelow (r : Reader) : ∃ above, OpenBelow above r := by
  cases hd : r.draft with
  | none => exact ⟨[], by simp [OpenBelow, hd]⟩
  | some d =>
    have hhead : IsHead [':'] := by
      rw [isHead_iff]
      decide
    exact ⟨[[':']], by simp [OpenBelow, hd, hhead]⟩

/-! ## A line that has neither a colon nor an equals sign -/

theorem dropCommentFrom_append {fresh : Bool} (p : Text) (hfresh : fresh = true ↔ Fresh p)
    (hu : ∀ s t, u = s ++ '#' :: t → ¬ Fresh (p ++ s)) (hw : isBlank w = true) (hc : '\n' ∉ c) :
    dropCommentFrom fresh (withComment u w c) = u ++ [w] := by
  induction u generalizing fresh p with
  | nil =>
    have hw' : w ≠ '#' := Text.ne_of_isBlank hw (by decide)
    have hdrop : c.dropWhile (· != '\n') = [] := Text.dropWhile_of_not_mem hc
    simp [withComment, dropCommentFrom, hw, hw', hdrop]
  | cons d u ih =>
    have hd : ¬ (d = '#' ∧ fresh = true) := by
      rintro ⟨rfl, hb⟩
      refine hu [] u rfl ?_
      rw [List.append_nil]
      exact hfresh.1 hb
    have hrest := ih (p ++ [d]) fresh_concat.symm ?_
    · unfold withComment at hrest ⊢
      rw [List.cons_append, dropCommentFrom, if_neg hd, hrest]
      rfl
    · rintro s t rfl
      have hno := hu (d :: s) t rfl
      simpa using hno

/-- A word that starts with `#` starts a comment. -/
theorem not_fresh_of_words (h : ∀ x ∈ u.words, x.head? ≠ some '#') : ∀ s t, u = s ++ '#' :: t → ¬ Fresh s := by
  rintro s t rfl hfresh
  obtain ⟨x, hx, hhead⟩ := Text.exists_mem_words (c := '#') (by decide) t
  refine h x ?_ hhead
  rcases List.eq_nil_or_concat s with rfl | ⟨s, b, rfl⟩
  · exact hx
  · rw [List.concat_eq_append] at hfresh ⊢
    rw [List.append_assoc, List.singleton_append, Text.words_append_cons (fresh_concat.1 hfresh)]
    exact List.mem_append_right _ hx

theorem words_concat (hw : isBlank w = true) (u : Text) : Text.words (u ++ [w]) = Text.words u := by
  rw [Text.words_append_cons hw]
  exact List.append_nil _

section Unmarked

variable (untabbed : u.head? ≠ some '\t') (said : ¬ Text.Blanks u) (uncommented : ∀ x ∈ Text.words u, x.head? ≠ some '#')
  (colon : ':' ∉ u) (equals : '=' ∉ u)

include said uncommented in
theorem not_passed_of_words : ¬ Passed u :=
  (uncommented_self_iff.2 (not_fresh_of_words uncommented)).not_passed said

include untabbed said uncommented colon equals

theorem feed_unmarked (r : Reader) (n : Int) : r.feed n u = .error (.unrecognised (u.head?.any isBlank)) := by
  have hkind := LineKind.of_unmarked (not_passed_of_words said uncommented) untabbed colon equals
  unfold Reader.feed Line.read
  rw [hkind]

variable (hw : isBlank w = true)

include hw

theorem feed_comment_unmarked (hcolon : ':' ∉ c) (hequals : '=' ∉ c) (r : Reader) (n : Int) :
    r.feed n (withComment u w c) = .error (.unrecognised (u.head?.any isBlank)) := by
  have hu := not_passed_of_words said uncommented
  have hhead : (withComment u w c).head? = u.head? := head?_append_of_not_passed hu _
  have hkind : LineKind.of (withComment u w c) = .invalid := by
    refine LineKind.of_unmarked (not_passed_append hu _) (by rwa [hhead]) ?_ ?_
    · exact not_mem_withComment colon (Text.ne_of_isBlank hw (by decide)) (by decide) hcolon
    · exact not_mem_withComment equals (Text.ne_of_isBlank hw (by decide)) (by decide) hequals
  unfold Reader.feed Line.read
  rw [hkind, hhead]

/-- The first colon or equals sign of the comment decides the kind of the line. -/
theorem kind_of_comment (split : c = a ++ m :: b) (mark : m = ':' ∨ m = '=') (ha : ':' ∉ a) (ha' : '=' ∉ a) :
    LineKind.of (withComment u w c) = if m = ':' ∧ b.head? ≠ some '=' then .target else .variable := by
  have hu := not_passed_of_words said uncommented
  have hhead : (withComment u w c).head? = u.head? := head?_append_of_not_passed hu _
  have hsplit : withComment u w c = withComment u w a ++ m :: b := by rw [split, withComment_append]
  refine LineKind.of_marked (not_passed_append hu _) (by rwa [hhead]) hsplit mark ?_ ?_
  · exact not_mem_withComment colon (Text.ne_of_isBlank hw (by decide)) (by decide) ha
  · exact not_mem_withComment equals (Text.ne_of_isBlank hw (by decide)) (by decide) ha'

/-- With a colon that comes first in its comment, the line is the head of a rule for its own words. -/
theorem feed_comment_colon (hc : '\n' ∉ c) (split : c = a ++ ':' :: b) (ha : ':' ∉ a) (ha' : '=' ∉ a)
    (hb : b.head? ≠ some '=') (r : Reader) (n : Int) : r.feed n (withComment u w c) =
      match Line.manyWildcards? (Text.words u) with
      | some x => .error (.manyWildcards x)
      | none => .ok { r.finish with draft := some { names := Text.words u, dependencies := [], line := n } } := by
  have hkind := kind_of_comment untabbed said uncommented colon equals hw split (.inl rfl) ha ha'
  rw [if_pos ⟨rfl, hb⟩] at hkind
  have hdrop : dropComment (withComment u w c) = u ++ [w] :=
    dropCommentFrom_append [] (by simp [fresh_nil]) (not_fresh_of_words uncommented) hw hc
  have hno : ':' ∉ u ++ [w] := by
    have hwcolon : w ≠ ':' := Text.ne_of_isBlank hw (by decide)
    simp [colon, Ne.symm hwcolon]
  have hne : Text.words u ≠ [] := mt Text.words_eq_nil_iff.1 said
  have hbreak : Text.breakAt ':' (u ++ [w]) = (u ++ [w], []) := Text.breakAt_of_not_mem hno
  have hread : Line.ofHeading (u ++ [w]) = match Line.manyWildcards? (Text.words u) with
      | some x => .error (.manyWildcards x)
      | none => .ok (.heading (Text.words u) []) := by
    rw [Line.ofHeading_of_ne_nil (by rwa [hbreak, words_concat hw]), hbreak, words_concat hw]
    rfl
  unfold Reader.feed Line.read
  rw [hkind]
  dsimp only
  rw [hdrop, hread]
  cases Line.manyWildcards? (Text.words u) <;> rfl

/-- An equals sign that comes first in the comment, with a colon in front of it or not, makes no head. -/
theorem kind_of_comment_equals (split : c = a ++ '=' :: b) (ha : ':' ∉ a.dropLast) (ha' : '=' ∉ a) :
    LineKind.of (withComment u w c) = .variable := by
  by_cases hcolon : ':' ∈ a
  · rcases List.eq_nil_or_concat a with rfl | ⟨a, d, rfl⟩
    · cases hcolon
    · rw [List.concat_eq_append] at *
      rw [List.dropLast_concat] at ha
      obtain rfl : ':' = d := by simpa [ha] using hcolon
      have ha'' : '=' ∉ a := fun h => ha' (List.mem_append_left _ h)
      have split' : c = a ++ ':' :: '=' :: b := by rw [split, List.append_assoc, List.singleton_append]
      rw [kind_of_comment untabbed said uncommented colon equals hw split' (.inl rfl) ha ha'', if_neg (by simp)]
  · rw [kind_of_comment untabbed said uncommented colon equals hw split (.inr rfl) hcolon ha', if_neg (by simp)]

omit untabbed uncommented equals hw in
/-- The words of the line belong to the name. -/
theorem variableName_withComment_ne_nil (w : Char) (a : Text) : Line.variableName (withComment u w a) ≠ [] := by
  rw [ne_eq, variableName_eq_nil_iff]
  rintro (hblanks | ⟨x, y, hxy, hx, hy⟩)
  · exact said fun d hd => hblanks d (List.mem_append_left _ hd)
  · refine said fun d hd => ?_
    have hmem : d ∈ x ++ ':' :: y := hxy ▸ List.mem_append_left _ hd
    rcases List.mem_append.1 hmem with hmem | hmem
    · exact hx d hmem
    · rcases List.mem_cons.1 hmem with rfl | hmem
      · exact absurd hd colon
      · exact hy d hmem

/-- With an equals sign that comes first in its comment, the line is an assignment. -/
theorem feed_comment_equals (split : c = a ++ '=' :: b) (ha : ':' ∉ a.dropLast) (ha' : '=' ∉ a) (r : Reader) (n : Int) :
    r.feed n (withComment u w c) =
      .ok { r with bindings := r.bindings.set (Line.variableName (withComment u w a)) (expand r.bindings (Text.trim b)) } := by
  have hno : '=' ∉ withComment u w a :=
    not_mem_withComment equals (Text.ne_of_isBlank hw (by decide)) (by decide) ha'
  have hbreak : (withComment u w c).breakAt '=' = (withComment u w a, b) := by
    rw [split, withComment_append, Text.breakAt_append hno]
  have hname := variableName_withComment_ne_nil said colon w a
  unfold Reader.feed Line.read
  rw [kind_of_comment_equals untabbed said uncommented colon equals hw split ha ha']
  dsimp only
  rw [Line.ofAssignment_of_ne_nil (by rwa [hbreak]), hbreak]
  rfl

/-- A comment behind a line that has neither a colon nor an equals sign may make it something else:

* the line alone is refused, and so it is with a comment that has neither;
* with a colon that comes first in its comment it is the head of a rule for its own words, without dependencies,
  unless one of them has several wildcards;
* with an equals sign or `:=` that comes first it is an assignment.

A line that is refused for anything else is refused for the same thing with any comment behind it. -/
theorem feed_withComment (hc : ∀ d ∈ c, isLineBreak d = false) (r : Reader) (n : Int) :
    r.feed n u = .error (.unrecognised (u.head?.any isBlank)) ∧
    (':' ∉ c → '=' ∉ c → r.feed n (withComment u w c) = .error (.unrecognised (u.head?.any isBlank))) ∧
    (∀ a b, c = a ++ ':' :: b → ':' ∉ a → '=' ∉ a → b.head? ≠ some '=' →
      (∀ x, Line.manyWildcards? (Text.words u) = some x → r.feed n (withComment u w c) = .error (.manyWildcards x)) ∧
      (Line.manyWildcards? (Text.words u) = none → r.feed n (withComment u w c) =
        .ok { r.finish with draft := some { names := Text.words u, dependencies := [], line := n } })) ∧
    (∀ a b, c = a ++ '=' :: b → '=' ∉ a → ':' ∉ a.dropLast → r.feed n (withComment u w c) =
      .ok { r with bindings := r.bindings.set (Line.variableName (withComment u w a)) (expand r.bindings (Text.trim b)) }) ∧
    (∀ v f, '\n' ∉ v ++ [w] → (∀ indented, f ≠ .unrecognised indented) → r.feed n v = .error f →
      r.feed n (withComment v w c) = .error f) := by
  have hline : '\n' ∉ c := by
    intro hmem
    have hno := hc '\n' hmem
    revert hno
    decide
  refine ⟨feed_unmarked untabbed said uncommented colon equals r n,
    fun hcolon hequals => feed_comment_unmarked untabbed said uncommented colon equals hw hcolon hequals r n,
    fun a b split ha ha' hb => ?_,
    fun a b split ha' ha => feed_comment_equals untabbed said uncommented colon equals hw split ha ha' r n,
    fun v f hv hf hfeed => ?_⟩
  · have hfeed := feed_comment_colon untabbed said uncommented colon equals hw hline split ha ha' hb r n
    constructor
    · intro x hx
      rw [hfeed, hx]
    · intro hnone
      rw [hfeed, hnone]
  · obtain ⟨above, hopen⟩ := r.exists_openBelow
    rw [List.mem_append, not_or] at hv
    have hflaw : Flaw above v f := (Reader.feed_error_iff hopen hv.1).1 hfeed
    have hbreak : '\n' ∉ withComment v w c := not_mem_withComment hv.1 (by simpa [eq_comm] using hv.2) (by decide) hline
    exact (Reader.feed_error_iff hopen hbreak).2 (hflaw.append_comment hf hw c)

end Unmarked

/-- A line that is refused alone is the head of a rule with a colon in its comment. -/
theorem feed_withComment_see :
    Reader.feed {} 1 (lit "foo") = .error (.unrecognised false) ∧
    Reader.feed {} 1 (withComment (lit "foo") ' ' (lit "see: bar")) =
      .ok { draft := some { names := [lit "foo"], dependencies := [], line := 1 } } := by
  have hall : (lit "see: bar").all (isLineBreak · = false) = true := by decide +kernel
  have hline : ∀ d ∈ lit "see: bar", isLineBreak d = false := by simpa using hall
  have hfeed := feed_withComment (u := lit "foo") (w := ' ') (by decide +kernel) (by decide +kernel) (by decide +kernel)
    (by decide +kernel) (by decide +kernel) (by decide) hline {} 1
  obtain ⟨halone, -, hcolon, -, -⟩ := hfeed
  obtain ⟨-, hhead⟩ := hcolon (lit "see") (lit " bar") (by decide +kernel) (by decide +kernel) (by decide +kernel)
    (by decide +kernel)
  have hwords : Text.words (lit "foo") = [lit "foo"] := by decide +kernel
  have hblank : (lit "foo").head?.any isBlank = false := by decide +kernel
  rw [hblank] at halone
  rw [hwords] at hhead
  exact ⟨halone, hhead (by decide +kernel)⟩

/-- A colon in a comment can make a line the head of a rule that is none without it. -/
theorem comment_makes_head : ¬ ∀ (u c : Text) (w : Char) (r : Reader) (n : Int), u.head? ≠ some '\t' → ¬ Text.Blanks u →
    (∀ x ∈ Text.words u, x.head? ≠ some '#') → ':' ∉ u → '=' ∉ u → isBlank w = true →
    (∀ d ∈ c, isLineBreak d = false) → ∃ f, r.feed n (withComment u w c) = .error f := by
  intro h
  have hall : (lit "see: bar").all (isLineBreak · = false) = true := by decide +kernel
  have hline : ∀ d ∈ lit "see: bar", isLineBreak d = false := by simpa using hall
  obtain ⟨f, hf⟩ := h (lit "foo") (lit "see: bar") ' ' {} 1 (by decide +kernel) (by decide +kernel) (by decide +kernel)
    (by decide +kernel) (by decide +kernel) (by decide) hline
  have hok : (Reader.feed {} 1 (withComment (lit "foo") ' ' (lit "see: bar"))).isOk = true := by decide +kernel
  rw [hf] at hok
  cases hok

/-! ## A comment behind the head of a rule -/

theorem ofHeading_concat_blank (hcolon : ':' ∈ l) (hw : isBlank w = true) :
    Line.ofHeading (l ++ [w]) = Line.ofHeading l := by
  obtain ⟨a, b, rfl, ha⟩ := List.eq_append_cons_of_mem hcolon
  unfold Line.ofHeading
  rw [List.append_assoc, List.cons_append, Text.breakAt_append ha, Text.breakAt_append ha]
  dsimp only
  rw [words_concat hw]

section Heading

variable (hl : LineKind.of l = .target) (hw : isBlank w = true)

include hl hw

theorem kind_of_heading_comment (c : Text) : LineKind.of (withComment l w c) = .target := by
  have said : ¬ Passed l := by
    intro hpassed
    rw [LineKind.of_passed hpassed] at hl
    cases hl
  have hkind := LineKind.of_append_blank said hw (by simp [hl]) ('#' :: c)
  exact hkind.trans hl

/-- The text that is read of the line ends before its own comment. If it has none, the blank is added, and no
word changes by that. -/
theorem ofHeading_dropComment (hline : '\n' ∉ withComment l w c) :
    Line.ofHeading (dropComment (withComment l w c)) = Line.ofHeading (dropComment l) := by
  have hcolon : ':' ∈ l := by
    obtain ⟨-, -, a, b, rfl, -⟩ := isHead_iff.2 hl
    simp
  have hl' : '\n' ∉ l := fun h => hline (List.mem_append_left _ h)
  have hown : Uncommented l (dropComment l) := (uncommented_iff hl').2 rfl
  rcases hown.append_comment hw c with hsame | ⟨hwhole, hmore⟩
  · -- the line has a comment of its own, and the new one is part of it
    rw [← (uncommented_iff hline).1 hsame]
  · rw [← (uncommented_iff hline).1 hmore, ← hwhole]
    exact ofHeading_concat_blank hcolon hw

theorem read_heading_comment (hline : '\n' ∉ withComment l w c) : Line.read (withComment l w c) = Line.read l := by
  unfold Line.read
  rw [kind_of_heading_comment hl hw c, hl]
  exact ofHeading_dropComment hl hw hline

/-- With a comment behind it, the head of a rule is still one and is read in the same way: by every reader, which
refuses it for the same fault or is the same reader afterwards, and by a reader that is changed in its place. -/
theorem feed_heading_comment (hline : '\n' ∉ withComment l w c) :
    LineKind.of (withComment l w c) = .target ∧
    (∀ (r : Reader) (n : Int), r.feed n (withComment l w c) = r.feed n l) ∧
    ∀ (r : Reader) (n : Int), (Work.feed n (withComment l w c)).on r = (Work.feed n l).on r := by
  have hfeed : ∀ (r : Reader) (n : Int), r.feed n (withComment l w c) = r.feed n l := by
    intro r n
    unfold Reader.feed
    rw [read_heading_comment hl hw hline]
  refine ⟨kind_of_heading_comment hl hw c, hfeed, ?_⟩
  intro r n
  rw [Work.on_feed, Work.on_feed, hfeed]

end Heading

/-- The blank may be any, and the comment may hold marks of all kinds; a line that is refused is refused for the
same name. -/
theorem feed_heading_comment_marks :
    (∀ n, Reader.feed {} n (withComment (lit "all:b") '\u3000' (lit " %%=:#x")) =
      .ok { draft := some { names := [lit "all"], dependencies := [lit "b"], line := n } }) ∧
    ∀ r n, Reader.feed r n (withComment (lit "a %%:") ' ' (lit "= :")) = .error (.manyWildcards (lit "%%")) := by
  constructor
  · intro n
    obtain ⟨-, hfeed, -⟩ := feed_heading_comment (l := lit "all:b") (w := '\u3000') (c := lit " %%=:#x")
      (by decide +kernel) (by decide) (by decide +kernel)
    have hread : Line.read (lit "all:b") = .ok (.heading [lit "all"] [lit "b"]) := by decide +kernel
    rw [hfeed]
    unfold Reader.feed
    rw [hread]
    rfl
  · intro r n
    obtain ⟨-, hfeed, -⟩ := feed_heading_comment (l := lit "a %%:") (w := ' ') (c := lit "= :")
      (by decide +kernel) (by decide) (by decide +kernel)
    have hread : Line.read (lit "a %%:") = .error (.manyWildcards (lit "%%")) := by decide +kernel
    rw [hfeed]
    unfold Reader.feed
    rw [hread]

end Buildfile.Description
