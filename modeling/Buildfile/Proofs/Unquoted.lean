import Buildfile.Proofs.Arguments
import Buildfile.Proofs.Words
import Buildfile.Runner
/-!
# Command lines without quotes

The two ways to cut a command line differ in what quotes and backslashes mean, and in which blanks separate. On a line
that holds neither a quote nor a backslash, and no blank but those that separate in both ways, they come to the same:
its words.
-/

namespace Buildfile

variable {c : Char} {t : Text}

/-- A command line on which it does not matter how it is cut. -/
structure Unquoted (t : Text) : Prop where
  quote : ∀ c ∈ t, Arguments.isQuote c = false
  escape : '\\' ∉ t
  blank : ∀ c ∈ t, isBlank c = true → Arguments.isSeparator c = true

theorem unquoted_iff_all : Unquoted t ↔
    t.all (fun c => !Arguments.isQuote c && c != '\\' && (!isBlank c || Arguments.isSeparator c)) = true := by
  simp only [List.all_eq_true, Bool.and_eq_true, Bool.or_eq_true, Bool.not_eq_true', bne_iff_ne]
  constructor
  · intro h c hc
    refine ⟨⟨h.quote c hc, ?_⟩, ?_⟩
    · rintro rfl
      exact h.escape hc
    · rw [← Bool.not_eq_true, ← imp_iff_not_or]
      exact h.blank c hc
  · intro h
    refine ⟨fun c hc => (h c hc).1.1, fun hc => (h _ hc).1.2 rfl, fun c hc => ?_⟩
    rw [imp_iff_not_or, Bool.not_eq_true]
    exact (h c hc).2

instance : Decidable (Unquoted t) := decidable_of_iff _ unquoted_iff_all.symm

theorem Unquoted.tail (h : Unquoted (c :: t)) : Unquoted t where
  quote d hd := h.quote d (List.mem_cons_of_mem c hd)
  escape hd := h.escape (List.mem_cons_of_mem c hd)
  blank d hd := h.blank d (List.mem_cons_of_mem c hd)

theorem Unquoted.not_isBlank (h : Unquoted (c :: t)) (hc : ¬ Arguments.isSeparator c = true) : isBlank c = false := by
  rw [Bool.eq_false_iff]
  intro hblank
  exact hc (h.blank c List.mem_cons_self hblank)

namespace Arguments

/-- The scan is outside of quoted parts, and in an argument only if it has begun to read one. -/
def Scan.Outside : Scan → Prop
  | between => True
  | inWord w => Text.IsWord w.reverse
  | _ => False

theorem Scan.start_of_unquoted (h : Unquoted (c :: t)) (w : Text) : Scan.start w c = .inWord (c :: w) := by
  have hquote := h.quote c List.mem_cons_self
  have hescape : c ≠ '\\' := by
    rintro rfl
    exact h.escape List.mem_cons_self
  simp [start, hquote, hescape]

theorem Scan.outside_inWord {w : Text} (hw : ∀ d ∈ w, isBlank d = false) (hc : isBlank c = false) :
    (Scan.inWord (c :: w)).Outside := by
  refine ⟨by simp, fun d hd => ?_⟩
  rcases List.mem_cons.1 (List.mem_reverse.1 hd) with rfl | hd
  · exact hc
  · exact hw d hd

/-- The arguments are the words of what the scan has begun to read and of the rest of the line. -/
theorem scan_eq_words {st : Scan} (hst : st.Outside) (ht : Unquoted t) :
    scan st t = .ok (Text.words (st.word.reverse ++ t)) := by
  induction st, t using scan.induct with
  | case1 => rfl
  | case2 w =>
    rw [scan, Scan.word, List.append_nil, Text.words_of_isWord hst]
  | case5 c t hc ih =>
    rw [scan, if_pos hc, ih trivial ht.tail]
    exact congrArg Except.ok (Text.words_cons_of_isBlank (isBlank_of_isSeparator hc) t).symm
  | case6 c t hc ih =>
    have hstart := Scan.start_of_unquoted ht []
    have hin : (Scan.inWord [c]).Outside := Scan.outside_inWord (List.forall_mem_nil _) (ht.not_isBlank hc)
    rw [hstart] at ih
    rw [scan, if_neg hc, hstart, ih hin ht.tail]
    rfl
  | case7 w c t hc ih =>
    have hword : Text.words (Scan.inWord w).word.reverse = [w.reverse] := Text.words_of_isWord hst
    rw [scan, if_pos hc, ih trivial ht.tail, Text.words_append_cons (isBlank_of_isSeparator hc), hword]
    rfl
  | case8 w c t hc ih =>
    have hstart := Scan.start_of_unquoted ht w
    have hw : ∀ d ∈ w, isBlank d = false := fun d hd => hst.2 d (List.mem_reverse.2 hd)
    rw [hstart] at ih
    rw [scan, if_neg hc, hstart, ih (Scan.outside_inWord hw (ht.not_isBlank hc)) ht.tail]
    simp [Scan.word]
  -- inside a quoted part, or behind a backslash
  | case3 | case4 | case9 | case10 | case11 | case12 | case13 => cases hst

end Arguments

/-- A command line that holds neither a quote nor a backslash, and of blanks only the space, the tab and the two line
breaks, is cut into its words however it is cut. So a command with this line does the same whether its runner heeds
quotes or not: it starts the same program with the same arguments, shows and writes the same, and ends alike. -/
theorem unquoted_alike (ht : Unquoted t) :
    (∀ q : Quoting, q.split t = .ok t.words) ∧
    ∀ {τ : Type} (h : Host τ) (r : Runner) (c : Command) (target : Option Name) (s : τ), c.text = t →
      Runner.run { r with quoting := .shell } h c target s = Runner.run { r with quoting := .plain } h c target s := by
  have hsplit : ∀ q : Quoting, q.split t = .ok t.words := by
    intro q
    cases q with
    | plain => rfl
    | shell =>
      have hscan : Arguments.scan .between t = .ok (Text.words t) := Arguments.scan_eq_words trivial ht
      exact hscan
  refine ⟨hsplit, ?_⟩
  rintro τ h r c target s rfl
  unfold Runner.run
  dsimp only
  rw [hsplit, hsplit]
  rfl

/-- Blanks in a row and at both ends, and characters that only a shell would heed. -/
theorem unquoted_alike_marks :
    let line := lit " \tcc -o a#b\t\t$x;%y |\r\n"
    Unquoted line ∧ Quoting.shell.split line = .ok [lit "cc", lit "-o", lit "a#b", lit "$x;%y", lit "|"] ∧
      Quoting.plain.split line = .ok [lit "cc", lit "-o", lit "a#b", lit "$x;%y", lit "|"] := by
  intro line
  have hline : Unquoted line := by decide +kernel
  have hwords : line.words = [lit "cc", lit "-o", lit "a#b", lit "$x;%y", lit "|"] := by decide +kernel
  obtain ⟨hsplit, -⟩ := unquoted_alike hline
  exact ⟨hline, (hsplit .shell).trans (congrArg _ hwords), (hsplit .plain).trans (congrArg _ hwords)⟩

/-- The other blanks separate in one way only. -/
example : let line := lit "a\u00a0b"
    Quoting.plain.split line = .ok [lit "a", lit "b"] ∧ Quoting.shell.split line = .ok [line] := by
  decide +kernel

end Buildfile
