import Buildfile.Text.Fill
import Buildfile.Text.Lines
/-!
# Paragraphs

A text is laid out in paragraphs, which empty lines keep apart. The lines of a paragraph are joined
and filled, at the indent of the first one. A paragraph under a line that holds a backspace alone keeps
its lines as they are.
-/

namespace Buildfile

namespace Text

/-- A text after some spaces. -/
def indented (n : Nat) (t : Text) : Text := List.replicate n ' ' ++ t

/-! ## Tabs -/

/-- The distance from one tab stop to the next. -/
def tabDistance : Nat := 8

/-- A text that starts at a column, with spaces up to the next tab stop in place of every tab. -/
def expandTabsFrom (column : Nat) : Text → Text
  | [] => []
  | c :: t =>
    if c = '\t' then
      let gap := tabDistance - column % tabDistance
      indented gap (expandTabsFrom (column + gap) t)
    else c :: expandTabsFrom (if c = '\n' ∨ c = '\r' then 0 else column + 1) t

/-- A text with spaces in place of its tabs. -/
def expandTabs (t : Text) : Text := expandTabsFrom 0 t

end Text

/-! ## Paragraphs -/

/-- Lines that belong together. -/
structure Paragraph where
  /-- The number of blanks before the first line. -/
  indent : Nat
  /-- The first line, without the blanks before it. -/
  first : Text
  /-- The other lines. -/
  rest : List Text
  deriving DecidableEq, Repr, Inhabited

namespace Paragraph

/-- The paragraph that a line starts. -/
def start (l : Text) : Paragraph := { indent := l.length - l.trimStart.length, first := l.trimStart, rest := [] }

/-- The paragraphs of some lines: `open?` is the paragraph that the next line belongs to. -/
def ofLinesFrom (open? : Option Paragraph) : List Text → List Paragraph
  | [] => open?.toList
  | [] :: ls => open?.toList ++ ofLinesFrom none ls
  | l :: ls =>
    match open? with
    | none => ofLinesFrom (some (start l)) ls
    | some p => ofLinesFrom (some { p with rest := p.rest ++ [l] }) ls

/-- The paragraphs of some lines. -/
def ofLines (ls : List Text) : List Paragraph := ofLinesFrom none ls

/-- Whether the lines of a paragraph are kept as they are. Its first line only says so. -/
def isVerbatim (p : Paragraph) : Bool := p.first.trim = ['\x08']

/-- The lines of a paragraph in a page of a given width. -/
def layOut (width : Nat) (p : Paragraph) : List Text :=
  (if p.isVerbatim then p.rest else Text.fill (width - p.indent) ([' '].intercalate (p.first :: p.rest))).map
    (Text.indented p.indent)

end Paragraph

/-- The lines of a text in a page of a given width. -/
def Text.layOut (width : Nat) (t : Text) : List Text :=
  Text.lines (['\n', '\n'].intercalate
    ((Paragraph.ofLines t.expandTabs.lines).map fun p => ['\n'].intercalate (p.layOut width)))

end Buildfile
