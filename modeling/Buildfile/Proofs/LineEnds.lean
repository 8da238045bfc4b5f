import Buildfile.Description.File
import Buildfile.Text.Utf8.RoundTrip
import Mathlib.Data.List.Basic
/-!
# A description in a file is read as its text

A file is decoded, its carriage returns are unified, and the text is cut into lines; a text is cut into lines as it
is. The cuts are the same (`Text.lines_unifyReturns`), so `load` agrees with `parse` on every text, line numbers
and errors included. Nor does it matter which break stands between the lines, or whether one ends the last of them:
that decides only about an empty line at the end, which is skipped.
-/

namespace Buildfile.Description

variable {ls : List Text} {e : Text}

/-- Reads a description that comes as its lines. -/
def ofLines (source : Text) (ls : List Text) : Except BuildError Description :=
  match Reader.feedAll {} 1 ls with
  | .error (line, f) => .error (f.toError source line)
  | .ok r => .ok r.close

theorem parse_eq_ofLines (source text : Text) : parse source text = ofLines source text.lines := rfl

theorem parse_unifyReturns (source text : Text) : parse source text.unifyReturns = parse source text := by
  rw [parse_eq_ofLines, Text.lines_unifyReturns, parse_eq_ofLines]

/-- The file at a path is read as the text it holds in UTF-8. -/
theorem load_of_encoded {read : Text → Except Refusal Bytes} {path text : Text}
    (holds : read (Path.normalise path) = .ok (Utf8.encode text)) :
    load read path = (parse (Path.normalise path) text).mapError .error := by
  simp only [load, holds, ofBytes, Utf8.decode_encode, parse_unifyReturns]

namespace Reader

/-- An empty line at the end is skipped. -/
theorem feedAll_empty (r : Reader) (n : Int) : r.feedAll n [[]] = .ok r := rfl

/-- Joined lines are read as these lines: only an empty line at the end may be lost or gained. -/
theorem feedAll_lines_joinLines (unbroken : ∀ l ∈ ls, l.Unbroken) (he : e.IsLineEnd) (ended : Bool) (r : Reader)
    (n : Int) : r.feedAll n (Text.joinLines e ended ls).lines = r.feedAll n ls := by
  have hlast : ∀ {l : Text}, l.Unbroken → (l ++ e).lines = [l] := by
    intro l hl
    have hcut := Text.lines_append_end (t := []) hl he (by simp)
    rwa [List.append_nil] at hcut
  induction ls generalizing r n with
  | nil =>
    cases ended with
    | false => rfl
    | true =>
      have hone : (Text.joinLines e true []).lines = [[]] := hlast Text.unbroken_nil
      rw [hone, feedAll_empty, feedAll]
  | cons l ls ih =>
    obtain ⟨hl, hls⟩ := List.forall_mem_cons.1 unbroken
    cases ls with
    | cons m ls =>
      have hcut : (Text.joinLines e ended (l :: m :: ls)).lines = l :: (Text.joinLines e ended (m :: ls)).lines := by
        rw [Text.joinLines_cons_cons]
        refine Text.lines_append_end hl he ?_
        rintro rfl
        exact Text.head?_joinLines_ne_newline (hls m (by simp)) ended ls
      rw [hcut, feedAll, feedAll]
      cases r.feed n l with
      | error f => rfl
      | ok next => exact ih hls next (n + 1)
    | nil =>
      cases ended with
      | true => rw [show Text.joinLines e true [l] = l ++ e by simp [Text.joinLines], hlast hl]
      | false =>
        rw [show Text.joinLines e false [l] = l by simp [Text.joinLines]]
        by_cases hempty : l = []
        · rw [hempty, feedAll_empty]
          rfl
        · rw [Text.lines_of_unbroken hempty hl]

end Reader

theorem parse_joinLines (unbroken : ∀ l ∈ ls, l.Unbroken) (he : e.IsLineEnd) (ended : Bool) (source : Text) :
    parse source (Text.joinLines e ended ls) = ofLines source ls := by
  rw [parse_eq_ofLines, ofLines, ofLines, Reader.feedAll_lines_joinLines unbroken he]

/-! ## The main theorem -/

/-- A file that holds a text in UTF-8 is read as the text is under the shown form of the path, whatever breaks its
lines; and lines joined by one line end, with or without one after the last of them, are read, as a text and from a
file, as these lines. -/
theorem line_ends_alike :
    (∀ (read : Text → Except Refusal Bytes) (path text : Text),
      read (Path.normalise path) = .ok (Utf8.encode text) →
        load read path = (parse (Path.normalise path) text).mapError .error) ∧
    ∀ (ls : List Text) (e : Text) (ended : Bool), (∀ l ∈ ls, l.Unbroken) → e.IsLineEnd →
      (∀ source, parse source (Text.joinLines e ended ls) = ofLines source ls) ∧
      ∀ (read : Text → Except Refusal Bytes) (path : Text),
        read (Path.normalise path) = .ok (Utf8.encode (Text.joinLines e ended ls)) →
          load read path = (ofLines (Path.normalise path) ls).mapError .error := by
  refine ⟨fun _ _ _ holds => load_of_encoded holds, fun ls e ended unbroken he => ⟨?_, ?_⟩⟩
  · exact fun source => parse_joinLines unbroken he ended source
  · intro read path holds
    rw [load_of_encoded holds, parse_joinLines unbroken he]

/-- A carriage return in front of such a pair ends a line of its own, and so does a line separator. -/
theorem line_ends_alike_mixed :
    load (fun _ => .ok (Utf8.encode (lit "a:\r\n\tone\r\r\n\tтwo\u2028b: a\r"))) (lit "./work//Buildfile") =
      .ok { rulebook := ⟨[
        .ofName (lit "a") [] [{ text := lit "one", line := some 2 }, { text := lit "тwo", line := some 4 }] 1,
        .ofName (lit "b") [lit "a"] [] 5]⟩ } ∧
    parse (lit "Buildfile") (lit "a:\r\r\tone\rwrong\r") =
      .error (.malformed (lit "Buildfile") 4 (lit "expected a target, variable or command line")) := by
  have hpath : Path.normalise (lit "./work//Buildfile") = lit "work/Buildfile" := by decide +kernel
  have hparse : parse (lit "work/Buildfile") (lit "a:\r\n\tone\r\r\n\tтwo\u2028b: a\r") =
      .ok { rulebook := ⟨[
        .ofName (lit "a") [] [{ text := lit "one", line := some 2 }, { text := lit "тwo", line := some 4 }] 1,
        .ofName (lit "b") [lit "a"] [] 5]⟩ } := by decide +kernel
  have hjoin : lit "a:\r\r\tone\rwrong\r" =
      Text.joinLines ['\r'] true [lit "a:", [], lit "\tone", lit "wrong"] := by decide +kernel
  constructor
  · rw [line_ends_alike.1 _ _ _ rfl, hpath, hparse]
    rfl
  · rw [hjoin, (line_ends_alike.2 _ ['\r'] true (by decide +kernel) (.single (by decide))).1]
    decide +kernel

end Buildfile.Description
