import ClusterNav.Style
import ClusterNav.Text.Fit

/-!
# Framed boxes

A box with a title in its upper border, centred in an area of the screen.
-/

namespace ClusterNav
namespace Box

def leastWidth : Nat := 8

/-- Spans cut to a number of characters in all, on the background of a box. -/
def clip (budget : Nat) : List Span → List Span
  | [] => []
  | span :: rest =>
    if budget = 0 then []
    else
      let content := Text.compact span.text budget
      ⟨content, span.style.withBg .panel⟩ :: clip (budget - content.length) rest

def topBorder (left title : String) (inner : Nat) : Line :=
  let shown := Text.compact (" " ++ title ++ " ") inner
  { spans :=
      [.raw left,
       ⟨"┌", .colored .accent⟩,
       ⟨shown, (Style.colored .white).emphasized⟩,
       ⟨Text.repeated '─' (inner - shown.length), .colored .accent⟩,
       ⟨"┐", .colored .accent⟩] }

def innerLine (left : String) (inner : Nat) (line : Line) : Line :=
  { spans :=
      [.raw left, ⟨"│", .colored .accent⟩]
      ++ clip inner line.spans
      ++ [⟨Text.spaces (inner - min line.width inner), Style.plain.withBg .panel⟩,
          ⟨"│", .colored .accent⟩] }

def bottomBorder (left : String) (inner : Nat) : Line :=
  { spans := [.raw left, ⟨"└" ++ Text.repeated '─' inner ++ "┘", .colored .accent⟩] }

/-- Lines in a box of some width, centred in an area. -/
def framed (title : String) (lines : List Line) (boxWidth width height : Nat) : List Line :=
  let width := max width leastWidth
  let boxWidth := min (max boxWidth leastWidth) width
  let inner := boxWidth - 2
  let left := Text.spaces ((width - boxWidth) / 2)
  let box :=
    [topBorder left title inner] ++ lines.map (innerLine left inner) ++ [bottomBorder left inner]
  List.replicate ((height - box.length) / 2) Line.blank ++ box

end Box
end ClusterNav
