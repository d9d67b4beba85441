import ClusterNav.Layout.Table
import ClusterNav.Select.FilterList
import ClusterNav.Status

/-!
# Pages as tables

The rows of the page of a filtered list, with the row under the cursor drawn as selected.
-/

namespace ClusterNav
namespace Select
namespace FilterList

/-- The rows of the page: for each the cells, made from the match and from whether the row is the
first of its initial.  A match without cells has no row. -/
def rows (l : FilterList) (cells : FilterMatch → Bool → Option (List Cell)) : List Line :=
  ((l.pageEntries.zip l.initialHints).zipIdx l.pageBounds.1).filterMap fun (e, position) =>
    (cells e.1 e.2).map fun cs => Table.row cs (position == l.cursor)

end FilterList
end Select

/-- A cell in the colour of secondary text. -/
def Cell.muted (text : String) (width : Nat) : Cell :=
  { text := text, width := width, style := .colored .muted }

/-- The cell of a status word, in the colour of its class. -/
def Cell.status (word : String) (width : Nat) : Cell :=
  { text := word, width := width, style := statusStyle word }

/-- The line of a prompt: a mark, the text typed so far, and a caret. -/
def Line.prompt (mark typed : String) : List Span :=
  [⟨mark, .colored .accent⟩, .raw (typed ++ "▏")]

def Line.note (text : String) : Line :=
  .styled text (.colored .muted)

def Line.heading (text : String) : Line :=
  .styled text (Style.colored .accent).emphasized

end ClusterNav
