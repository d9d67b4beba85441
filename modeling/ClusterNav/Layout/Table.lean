import ClusterNav.Style
import ClusterNav.Text.Fit

/-!
# Tables

A table has a header line and row lines.  A cell is fitted to the width of its column, and one space
stands between two columns, so that header and rows line up whatever the texts are.  The view
`Cell.cells` gives every character of a cell its style: matched characters stand out, and one
character may be underlined as a hint.
-/

namespace ClusterNav

/-- A cell of a row. -/
structure Cell where
  text : String
  width : Nat
  style : Style := .colored .white
  /-- Positions drawn as matched. -/
  marks : List Nat := []
  /-- A position drawn as a hint. -/
  hint : Option Nat := none
deriving Repr

namespace Cell

/-- The style of the character at a position. -/
def styleAt (cell : Cell) (position : Nat) : Style :=
  let style :=
    if cell.marks.contains position then (cell.style.withFg .accent).emphasized else cell.style
  if cell.hint == some position then style.underline else style

/-- The characters from a position on, each with its style. -/
def styledFrom (cell : Cell) (position : Nat) : List Char → List (Char × Style)
  | [] => []
  | c :: rest => (c, cell.styleAt position) :: styledFrom cell (position + 1) rest

/-- The characters of a cell, each with its style. -/
def cells (cell : Cell) : List (Char × Style) :=
  cell.styledFrom 0 (Text.fit cell.text cell.width).toList

def spans (cell : Cell) : List Span :=
  if cell.marks.isEmpty && cell.hint.isNone then
    [⟨Text.fit cell.text cell.width, cell.style⟩]
  else Span.ofCells cell.cells

theorem styledFrom_plain (cell : Cell) (hm : cell.marks = []) (hh : cell.hint = none)
    (position : Nat) (cs : List Char) :
    cell.styledFrom position cs = cs.map fun c => (c, cell.style) := by
  induction cs generalizing position with
  | nil => rfl
  | cons c rest ih => simp [styledFrom, styleAt, hm, hh, ih]

/-- The spans of a cell show its characters in their styles. -/
theorem cells_spans (cell : Cell) : cell.spans.flatMap Span.cells = cell.cells := by
  unfold spans
  split
  · rename_i h
    simp only [Bool.and_eq_true, List.isEmpty_iff, Option.isNone_iff_eq_none] at h
    simp [cells, styledFrom_plain cell h.1 h.2, Span.cells]
  · exact Span.cells_ofCells _

end Cell

namespace Table

/-- What stands between two columns. -/
def gap : List Span := [Span.raw " "]

def columns (parts : List (List Span)) : List Span :=
  (List.intersperse gap parts).flatten

def header (names : List (String × Nat)) : Line :=
  { spans := columns <| names.map fun n =>
      [⟨Text.fit n.1 n.2, (Style.colored .accent).emphasized⟩] }

def row (cells : List Cell) (selected : Bool) : Line where
  spans := columns (cells.map Cell.spans)
  style := if selected then (Style.plain.withBg .selected).emphasized else .plain

end Table
end ClusterNav
