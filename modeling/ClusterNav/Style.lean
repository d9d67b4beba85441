import ClusterNav.Text.Width
import ClusterNav.Text.Lines

/-!
# Styled text

A line on the screen is a row of spans, each a text in one style, over a style of the line as a
whole.  `Line.text` is the view that forgets styles, and `Line.cells` the view that keeps the style
of every character and forgets how the line is cut into spans.
-/

namespace ClusterNav

/-- A colour of the terminal. -/
inductive Color
  | rgb (red green blue : Nat)
  | white
deriving DecidableEq, Repr

namespace Color

def screen : Color := .rgb 9 15 25

def panel : Color := .rgb 16 27 44

/-- Headings, matches and keys. -/
def accent : Color := .rgb 52 211 153

def muted : Color := .rgb 140 156 178

def warning : Color := .rgb 251 191 36

def failure : Color := .rgb 248 113 113

/-- Things in progress. -/
def info : Color := .rgb 96 165 250

/-- Background of the row under the cursor. -/
def selected : Color := .rgb 24 36 58

end Color

/-- What a style sets; what it leaves out shows through from below. -/
structure Style where
  fg : Option Color := none
  bg : Option Color := none
  bold : Bool := false
  underlined : Bool := false
  reversed : Bool := false
deriving DecidableEq, Repr

namespace Style

def plain : Style := {}

instance : Inhabited Style := ⟨plain⟩

def colored (c : Color) : Style := { fg := some c }

def withFg (s : Style) (c : Color) : Style := { s with fg := some c }

def withBg (s : Style) (c : Color) : Style := { s with bg := some c }

def emphasized (s : Style) : Style := { s with bold := true }

def underline (s : Style) : Style := { s with underlined := true }

/-- The style with text and background swapped. -/
def reverse (s : Style) : Style := { s with reversed := true }

end Style

/-- A text in one style. -/
structure Span where
  text : String
  style : Style := .plain
deriving DecidableEq, Repr

namespace Span

def raw (text : String) : Span := ⟨text, .plain⟩

def width (s : Span) : Nat := Text.width s.text

/-- The characters of the span, each with the style of the span. -/
def cells (s : Span) : List (Char × Style) :=
  s.text.toList.map fun c => (c, s.style)

/-- The spans of the rest of a row, with the open run in reverse and its style. -/
def runsAfter (run : List Char) (style : Style) : List (Char × Style) → List Span
  | [] => if run.isEmpty then [] else [⟨String.ofList run.reverse, style⟩]
  | (c, s) :: rest =>
    if s = style || run.isEmpty then runsAfter (c :: run) s rest
    else ⟨String.ofList run.reverse, style⟩ :: runsAfter [c] s rest

/-- The fewest spans that show characters in their styles. -/
def ofCells (cells : List (Char × Style)) : List Span :=
  runsAfter [] .plain cells

theorem cells_runsAfter (run : List Char) (style : Style) (row : List (Char × Style)) :
    (runsAfter run style row).flatMap cells = run.reverse.map (fun c => (c, style)) ++ row := by
  induction row generalizing run style with
  | nil =>
    cases run with
    | nil => rfl
    | cons c run => simp [runsAfter, cells]
  | cons entry rest ih =>
    obtain ⟨c, s⟩ := entry
    by_cases hs : s = style
    · subst hs
      simp [runsAfter, ih]
    · cases run with
      | nil => simp [runsAfter, ih]
      | cons d run => simp [runsAfter, hs, ih, cells]

/-- Cutting a row into spans keeps every character and its style. -/
theorem cells_ofCells (row : List (Char × Style)) : (ofCells row).flatMap cells = row := by
  simp [ofCells, cells_runsAfter]

end Span

/-- A row of spans over a style of its own. -/
structure Line where
  spans : List Span := []
  style : Style := .plain
deriving DecidableEq, Repr

namespace Line

def blank : Line := {}

instance : Inhabited Line := ⟨blank⟩

def ofSpan (s : Span) : Line := { spans := [s] }

/-- A line of one text in one style. -/
def styled (text : String) (style : Style) : Line := ofSpan ⟨text, style⟩

/-- A line of a text whose line ends are dropped. -/
def ofText (text : String) : Line :=
  { spans := (Text.lines text).map Span.raw }

/-- The text of a line, without styles. -/
def text (l : Line) : String :=
  String.join (l.spans.map Span.text)

def width (l : Line) : Nat :=
  l.spans.foldr (fun s n => s.width + n) 0

/-- The characters of a line with the styles of their spans. -/
def cells (l : Line) : List (Char × Style) :=
  l.spans.flatMap Span.cells

theorem toList_text (l : Line) : l.text.toList = l.cells.map Prod.fst := by
  simp [text, cells, Span.cells, List.map_flatMap, List.flatMap_map, Function.comp_def]

end Line
end ClusterNav
