import Buildfile.Proofs.Kinds
import Buildfile.Proofs.Outline
import Mathlib.Data.Nat.Find
/-!
# A description is refused for its first bad line

A reader refuses a line exactly if the line has a flaw below the lines above it, and what it says is that
flaw. The one thing a reader has to know of the lines above is whether a rule is open, which it is from the
first head of a rule on.
-/

namespace Buildfile.Description

variable {ls above : List Text} {l t u : Text} {n : Int} {f : Fault} {r r' : Reader}

/-! ## Names that are missing -/

theorem variableName_eq_nil_iff : Line.variableName u = [] ↔
    Text.Blanks u ∨ ∃ a b, u = a ++ ':' :: b ∧ Text.Blanks a ∧ Text.Blanks b := by
  have hcolon : isBlank ':' = false := by decide
  unfold Line.variableName
  constructor
  · intro h
    obtain ⟨a, ha, hu⟩ := Text.exists_blanks_append_trimStart u
    obtain ⟨b, hb, hstart⟩ := Text.exists_trimEnd_append_blanks u.trimStart
    change u.trimStart = u.trim ++ b at hstart
    dsimp only at h
    split at h
    · next hlast =>
      obtain ⟨name, hname⟩ := List.getLast?_eq_some_iff.1 hlast
      rw [hname, List.dropLast_concat, Text.trimEnd_eq_nil_iff] at h
      right
      refine ⟨a ++ name, b, ?_, Text.blanks_append.2 ⟨ha, h⟩, hb⟩
      rw [hu, hstart, hname]
      simp
    · left
      rw [hu, hstart, h]
      exact Text.blanks_append.2 ⟨ha, hb⟩
  · rintro (hu | ⟨a, b, rfl, ha, hb⟩)
    · have htrim : u.trim = [] := by
        unfold Text.trim
        rw [Text.trimStart_eq_nil_iff.2 hu]
        rfl
      rw [htrim]
      rfl
    · have htrim : Text.trim (a ++ ':' :: b) = [':'] := by
        unfold Text.trim
        rw [Text.trimStart_append ha, Text.trimStart_cons hcolon]
        exact (Text.trimEnd_append hb [':']).trans (Text.trimEnd_concat hcolon [])
      rw [htrim]
      rfl

namespace Line

theorem ofAssignment_error_iff : ofAssignment t = .error f ↔
    f = .missingVariable ∧ variableName (t.breakAt '=').1 = [] := by
  unfold ofAssignment
  dsimp only
  split
  · next h =>
    constructor
    · rintro ⟨⟩
      exact ⟨rfl, h⟩
    · rintro ⟨rfl, -⟩
      rfl
  · next h =>
    constructor
    · intro hok
      cases hok
    · rintro ⟨-, hnil⟩
      exact absurd hnil h

theorem ofAssignment_of_ne_nil (h : variableName (t.breakAt '=').1 ≠ []) :
    ofAssignment t = .ok (.assignment (variableName (t.breakAt '=').1) (Text.trim (t.breakAt '=').2)) := by
  unfold ofAssignment
  dsimp only
  split
  · next hnil => exact absurd hnil h
  · rfl

theorem ofHeading_of_ne_nil (h : Text.words (t.breakAt ':').1 ≠ []) : ofHeading t =
    match manyWildcards? (Text.words (t.breakAt ':').1) with
    | some w => .error (.manyWildcards w)
    | none => .ok (.heading (Text.words (t.breakAt ':').1) (Text.words (t.breakAt ':').2)) := by
  unfold ofHeading
  dsimp only
  split
  · next hnil => exact absurd hnil h
  · rfl

/-- The first of the names that has more than one wildcard. -/
theorem manyWildcards?_eq_some_iff {names : List Name} {w : Name} : manyWildcards? names = some w ↔
    ∃ ws ws', names = ws ++ w :: ws' ∧ (∀ x ∈ ws, x.count wildcard ≤ 1) ∧ 2 ≤ w.count wildcard := by
  unfold manyWildcards?
  rw [List.find?_eq_some_iff_append]
  constructor
  · rintro ⟨hmany, ws, ws', hnames, hfine⟩
    exact ⟨ws, ws', hnames, fun x hx => by simpa using hfine x hx, of_decide_eq_true hmany⟩
  · rintro ⟨ws, ws', hnames, hfine, hmany⟩
    exact ⟨decide_eq_true hmany, ws, ws', hnames, fun x hx => by simpa using hfine x hx⟩

theorem ofHeading_error_iff : ofHeading t = .error f ↔
    (f = .missingTarget ∧ Text.Blanks (t.breakAt ':').1) ∨
      ∃ ws w ws', f = .manyWildcards w ∧ Text.words (t.breakAt ':').1 = ws ++ w :: ws' ∧
        (∀ x ∈ ws, x.count wildcard ≤ 1) ∧ 2 ≤ w.count wildcard := by
  rw [← Text.words_eq_nil_iff]
  by_cases hnil : Text.words (t.breakAt ':').1 = []
  · have hmissing : ofHeading t = .error .missingTarget := by
      unfold ofHeading
      dsimp only
      rw [hnil]
    rw [hmissing, Except.error.injEq]
    constructor
    · rintro rfl
      exact .inl ⟨rfl, hnil⟩
    · rintro (⟨rfl, -⟩ | ⟨ws, w, ws', -, hws, -⟩)
      · rfl
      · rw [hnil] at hws
        simp at hws
  · rw [ofHeading_of_ne_nil hnil]
    have hmany := @manyWildcards?_eq_some_iff (Text.words (t.breakAt ':').1)
    cases hw : manyWildcards? (Text.words (t.breakAt ':').1) with
    | some w =>
      dsimp only
      rw [Except.error.injEq]
      constructor
      · rintro rfl
        obtain ⟨ws, ws', hnames⟩ := hmany.1 hw
        exact .inr ⟨ws, w, ws', rfl, hnames⟩
      · rintro (⟨-, h⟩ | ⟨vs, v, vs', rfl, hnames⟩)
        · exact absurd h hnil
        · have hv := hmany.2 ⟨vs, vs', hnames⟩
          rw [hw, Option.some.injEq] at hv
          rw [hv]
    | none =>
      constructor
      · intro hok
        cases hok
      · rintro (⟨-, h⟩ | ⟨vs, v, vs', -, hnames⟩)
        · exact absurd h hnil
        · have hv := hmany.2 ⟨vs, vs', hnames⟩
          rw [hw] at hv
          cases hv

end Line

/-! ## One line -/

/-- The kind of the lines that have this fault. -/
def Fault.kind : Fault → LineKind
  | orphanCommand => .command
  | missingTarget => .target
  | manyWildcards _ => .target
  | missingVariable => .variable
  | unrecognised _ => .invalid

theorem Flaw.of_eq_kind (h : Flaw above l f) : LineKind.of l = f.kind := by
  rw [LineKind.of_eq_iff]
  cases h <;> assumption

/-- A line says nothing exactly if it has a flaw other than that no rule is open. -/
theorem Line.read_error_iff (above : List Text) (hl : '\n' ∉ l) :
    Line.read l = .error f ↔ f ≠ .orphanCommand ∧ Flaw above l f := by
  constructor
  · intro hf
    unfold Line.read at hf
    cases hkind : LineKind.of l with
    | skip =>
      rw [hkind] at hf
      cases hf
    | command =>
      rw [hkind] at hf
      cases hf
    | target =>
      rw [hkind] at hf
      have hcomment : Uncommented l (dropComment l) := (uncommented_iff hl).2 rfl
      rcases Line.ofHeading_error_iff.1 hf with ⟨rfl, hnames⟩ | ⟨ws, w, ws', rfl, hnames, hfine, hmany⟩
      · exact ⟨nofun, .nameless (LineKind.of_eq_iff.1 hkind) hcomment hnames⟩
      · exact ⟨nofun, .wildcards (LineKind.of_eq_iff.1 hkind) hcomment hnames hfine hmany⟩
    | «variable» =>
      rw [hkind] at hf
      obtain ⟨rfl, hname⟩ := Line.ofAssignment_error_iff.1 hf
      have hvariable := LineKind.of_eq_iff.1 hkind
      have hmem : '=' ∈ l := by cases hvariable; assumption
      obtain ⟨u, v, rfl, hu⟩ := List.eq_append_cons_of_mem hmem
      rw [Text.breakAt_append hu, variableName_eq_nil_iff] at hname
      exact ⟨nofun, .unnamed hvariable rfl hu hname⟩
    | invalid =>
      rw [hkind] at hf
      cases hf
      exact ⟨nofun, .unrecognised (LineKind.of_eq_iff.1 hkind)⟩
  · rintro ⟨hne, hflaw⟩
    have hkind := hflaw.of_eq_kind
    unfold Line.read
    rw [hkind]
    cases hflaw with
    | orphan => exact absurd rfl hne
    | unrecognised => rfl
    | nameless _ hcomment hnames =>
      rw [uncommented_iff hl] at hcomment
      subst hcomment
      exact Line.ofHeading_error_iff.2 (.inl ⟨rfl, hnames⟩)
    | wildcards _ hcomment hnames hfine hmany =>
      rw [uncommented_iff hl] at hcomment
      subst hcomment
      exact Line.ofHeading_error_iff.2 (.inr ⟨_, _, _, rfl, hnames, hfine, hmany⟩)
    | unnamed _ hsplit hequals hname =>
      subst hsplit
      refine Line.ofAssignment_error_iff.2 ⟨rfl, ?_⟩
      rw [Text.breakAt_append hequals]
      exact variableName_eq_nil_iff.2 hname

namespace Reader

/-- Only a command can still be refused once it is understood. -/
theorem accept_error_iff {a : Line} : r.accept n a = .error f ↔
    f = .orphanCommand ∧ r.draft = none ∧ ∃ silent text, a = .command silent text := by
  cases a with
  | command silent text =>
    unfold accept
    cases r.draft with
    | none => simp [eq_comm]
    | some d => simp
  | _ => simp [accept]

/-- A rule is open exactly if one of these lines is the head of a rule. -/
def OpenBelow (above : List Text) (r : Reader) : Prop := r.draft = none ↔ ∀ a ∈ above, ¬ IsHead a

/-- A line is refused exactly for the flaw it has. -/
theorem feed_error_iff (h : OpenBelow above r) (hl : '\n' ∉ l) : r.feed n l = .error f ↔ Flaw above l f := by
  have hread : Line.read l = .error f ↔ f ≠ .orphanCommand ∧ Flaw above l f := Line.read_error_iff above hl
  unfold feed
  cases hr : Line.read l with
  | error g =>
    dsimp only
    rw [hr, Except.error.injEq] at hread
    rw [Except.error.injEq, hread]
    refine ⟨And.right, fun hflaw => ⟨?_, hflaw⟩⟩
    -- a command is always understood
    rintro rfl
    unfold Line.read at hr
    rw [hflaw.of_eq_kind] at hr
    cases hr
  | ok a =>
    have hkind := Line.read_cases hr
    refine accept_error_iff.trans ⟨?_, fun hflaw => ?_⟩
    · rintro ⟨rfl, hdraft, silent, text, rfl⟩
      rcases hkind with ⟨_, ha⟩ | ⟨hkind, _⟩ | ⟨_, ha⟩ | ⟨_, _, _, _, ha⟩
      · cases ha
      · exact .orphan (LineKind.of_eq_iff.1 hkind) (h.1 hdraft)
      · cases ha
      · cases ha
    · have hf : f = .orphanCommand := by
        by_contra hne
        have herror := hread.2 ⟨hne, hflaw⟩
        rw [hr] at herror
        cases herror
      subst hf
      have hcommand := hflaw.of_eq_kind
      rw [hcommand] at hkind
      cases hflaw with
      | orphan _ hfirst =>
        refine ⟨rfl, h.2 hfirst, ?_⟩
        rcases hkind with ⟨hkind, _⟩ | ⟨_, ha⟩ | ⟨hkind, _⟩ | ⟨_, _, hkind, _⟩
        · cases hkind
        · exact ⟨_, _, ha⟩
        · cases hkind
        · cases hkind

/-- A line that is taken opens a rule exactly if it is the head of one. -/
theorem OpenBelow.feed (h : OpenBelow above r) (hf : r.feed n l = .ok r') : OpenBelow (above ++ [l]) r' := by
  have hnone : r'.draft = none ↔ r.draft = none ∧ ¬ IsHead l := by
    unfold Reader.feed at hf
    split at hf
    · cases hf
    next a ha =>
    rw [isHead_iff]
    rcases Line.read_cases ha with ⟨hkind, rfl⟩ | ⟨hkind, rfl⟩ | ⟨hkind, rfl⟩ | ⟨x, value, hkind, -, rfl⟩
    · cases hf
      simp [hkind]
    · simp only [accept] at hf
      split at hf
      · cases hf
      next d hd =>
      cases hf
      simp [hd]
    · cases hf
      simp [hkind]
    · cases hf
      simp [hkind]
  unfold OpenBelow at h ⊢
  rw [hnone, h, List.forall_mem_append]
  simp

/-- The rest of the lines is refused for the first flaw in them. -/
theorem feedAll_error_iff {k : Nat} (h : OpenBelow (ls.take k) r) (hls : ∀ l ∈ ls, '\n' ∉ l) {rest : List Text}
    (hrest : ls.drop k = rest) : r.feedAll (k + 1) rest = .error (n, f) ↔
      ∃ i, k ≤ i ∧ FaultAt ls i f ∧ (∀ j, k ≤ j → j < i → ∀ g, ¬ FaultAt ls j g) ∧ n = i + 1 := by
  induction rest generalizing k r with
  | nil =>
    constructor
    · intro hf
      cases hf
    · rintro ⟨i, hk, ⟨l, hl, -⟩, -⟩
      have hlength : ls.length ≤ k := List.drop_eq_nil_iff.1 hrest
      have hi := (List.getElem?_eq_some_iff.1 hl).1
      omega
  | cons l rest ih =>
    have hl : ls[k]? = some l := by rw [← List.head?_drop, hrest]; rfl
    have hrest' : ls.drop (k + 1) = rest := by rw [← List.tail_drop, hrest]; rfl
    have hfeed : ∀ g, r.feed (k + 1) l = .error g ↔ FaultAt ls k g := by
      intro g
      rw [feed_error_iff h (hls l (List.mem_of_getElem? hl))]
      simp [FaultAt, hl]
    unfold feedAll
    cases hr : r.feed (k + 1) l with
    | error g =>
      have hg : FaultAt ls k g := (hfeed g).1 hr
      constructor
      · rintro ⟨⟩
        exact ⟨k, le_rfl, hg, fun j hkj hjk => absurd hjk (by omega), rfl⟩
      · rintro ⟨i, hki, hi, hfirst, rfl⟩
        obtain rfl | hlt := Nat.eq_or_lt_of_le hki
        · rw [← hfeed, hr] at hi
          cases hi
          rfl
        · exact absurd hg (hfirst k le_rfl hlt g)
    | ok r' =>
      have hnone : ∀ g, ¬ FaultAt ls k g := by
        intro g hg
        rw [← hfeed, hr] at hg
        cases hg
      have hopen : OpenBelow (ls.take (k + 1)) r' := by
        rw [take_succ_eq hl]
        exact h.feed hr
      have hrec := ih hopen hrest'
      push_cast at hrec
      refine hrec.trans (exists_congr fun i => ?_)
      constructor
      · rintro ⟨hki, hi, hfirst, hn⟩
        refine ⟨by omega, hi, fun j hkj hji => ?_, hn⟩
        obtain rfl | hlt := Nat.eq_or_lt_of_le hkj
        · exact hnone
        · exact hfirst j hlt hji
      · rintro ⟨hki, hi, hfirst, hn⟩
        have hne : k ≠ i := by
          rintro rfl
          exact hnone f hi
        exact ⟨by omega, hi, fun j hkj => hfirst j (by omega), hn⟩

end Reader

/-! ## A description -/

/-- A description is refused for the first of its lines that has a flaw. -/
theorem parse_error_iff {source text : Text} {e : BuildError} : parse source text = .error e ↔
    ∃ i f, FaultAt text.lines i f ∧ (∀ j < i, ∀ g, ¬ FaultAt text.lines j g) ∧
      e = .malformed source (i + 1) f.message := by
  have hlines : ∀ l ∈ text.lines, '\n' ∉ l := fun l hl => Text.newline_not_mem (Text.unbroken_of_mem_lines hl)
  have hstart : Reader.OpenBelow (text.lines.take 0) {} := by simp [Reader.OpenBelow]
  have hall : ∀ n f, Reader.feedAll {} 1 text.lines = .error (n, f) ↔ ∃ i, FaultAt text.lines i f ∧
      (∀ j < i, ∀ g, ¬ FaultAt text.lines j g) ∧ n = i + 1 := by
    intro n f
    have hrest := Reader.feedAll_error_iff (n := n) (f := f) hstart hlines rfl
    simpa using hrest
  unfold parse
  cases hr : Reader.feedAll {} 1 text.lines with
  | error nf =>
    obtain ⟨n, f⟩ := nf
    constructor
    · rintro ⟨⟩
      obtain ⟨i, hi, hfirst, rfl⟩ := (hall n f).1 hr
      exact ⟨i, f, hi, hfirst, rfl⟩
    · rintro ⟨i, g, hi, hfirst, rfl⟩
      have hrefused := (hall (i + 1) g).2 ⟨i, hi, hfirst, rfl⟩
      rw [hr] at hrefused
      cases hrefused
      rfl
  | ok r =>
    constructor
    · intro he
      cases he
    · rintro ⟨i, f, hi, hfirst, -⟩
      have hrefused := (hall (i + 1) f).2 ⟨i, hi, hfirst, rfl⟩
      rw [hr] at hrefused
      cases hrefused

/-- A description is refused exactly if one of its lines has a flaw, and what is reported is the name of
the description with the number and the flaw of the first such line. -/
theorem parse_refuses (source text : Text) :
    (∀ e, parse source text = .error e ↔ ∃ i f, FaultAt text.lines i f ∧
      (∀ j < i, ∀ g, ¬ FaultAt text.lines j g) ∧ e = .malformed source (i + 1) f.message) ∧
    ((∃ e, parse source text = .error e) ↔ ∃ i f, FaultAt text.lines i f) := by
  refine ⟨fun e => parse_error_iff, ?_⟩
  constructor
  · rintro ⟨e, he⟩
    obtain ⟨i, f, hi, -⟩ := parse_error_iff.1 he
    exact ⟨i, f, hi⟩
  · intro hfault
    classical
    obtain ⟨f, hf⟩ := Nat.find_spec hfault
    refine ⟨_, parse_error_iff.2 ⟨Nat.find hfault, f, hf, ?_, rfl⟩⟩
    intro j hj g hg
    exact Nat.find_min hfault hj ⟨g, hg⟩

end Buildfile.Description
