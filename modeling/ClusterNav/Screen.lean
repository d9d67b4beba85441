import ClusterNav.Host
import ClusterNav.Text.Grapheme
import ClusterNav.Text.Printable

/-!
# Screens

Lines drawn into the cells of a terminal.  A grapheme cluster fills as many cells as it is wide; the
first holds the cluster and the others stay blank.  Clusters with control characters and clusters
without a width are not drawn, and a line ends where the next cluster does not fit.
-/

namespace ClusterNav
namespace Screen

/-- The clusters that can be drawn: a cluster is cut within its span. -/
def clusters (line : Line) : List (List Char) :=
  line.spans.flatMap fun span =>
    (Text.graphemes span.text.toList).filter fun cluster => !cluster.any Text.isControl

/-- The cells of clusters from a cell on, in a row of `width` cells. -/
def cellsFrom (width used : Nat) : List (List Char) → List (List Char)
  | [] => List.replicate (width - used) [' ']
  | cluster :: rest =>
    let w := Text.listWidth cluster
    if w = 0 || width < w then cellsFrom width used rest
    else if width < used + w then List.replicate (width - used) [' ']
    else cluster :: List.replicate (w - 1) [' '] ++ cellsFrom width (used + w) rest

/-- The cells of a line, in a row of `width` cells. -/
def row (width : Nat) (line : Line) : String :=
  String.ofList (cellsFrom width 0 (clusters line)).flatten

def rows (width height : Nat) (lines : List Line) : List String :=
  (lines.take height).map (row width)
    ++ List.replicate (height - lines.length) (Text.spaces width)

end Screen

/-- What a host shows on a screen. -/
def Host.screen (h : Host) (width height : Nat) : List String :=
  Screen.rows width height h.frame

end ClusterNav
