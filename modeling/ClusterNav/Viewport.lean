import ClusterNav.Key
import ClusterNav.Style

/-!
# Viewports

A window of some height over a list of lines.  The window never passes the last line, and a text
that fits is shown from its first line.
-/

namespace ClusterNav

/-- A window over lines. -/
structure Viewport where
  lines : List Line
  offset : Nat
  width : Nat
  height : Nat
deriving Repr, DecidableEq

namespace Viewport

/-- The window before it has a size. -/
def unsized : Viewport := ⟨[], 0, 0, 0⟩

instance : Inhabited Viewport := ⟨unsized⟩

/-- A window of the usual size at the first line. -/
def ofLines (lines : List Line) : Viewport := ⟨lines, 0, 80, 20⟩

/-- The last offset that leaves no room below the lines. -/
def maxOffset (v : Viewport) : Nat :=
  v.lines.length - v.height

/-- The window moved up as far as it stands past the last line. -/
def clamp (v : Viewport) : Viewport :=
  { v with offset := min v.offset v.maxOffset }

/-- Sets the size; the height is at least one. -/
def setSize (v : Viewport) (width height : Nat) : Viewport :=
  clamp { v with width := width, height := max height 1 }

def setLines (v : Viewport) (lines : List Line) : Viewport :=
  clamp { v with lines := lines }

/-- Does the window show the last line? -/
def atBottom (v : Viewport) : Bool :=
  v.maxOffset ≤ v.offset

def scrollDown (v : Viewport) (n : Nat) : Viewport :=
  clamp { v with offset := v.offset + n }

def scrollUp (v : Viewport) (n : Nat) : Viewport :=
  { v with offset := v.offset - n }

/-- Moves the window to the first line. -/
def goTop (v : Viewport) : Viewport :=
  { v with offset := 0 }

/-- Moves the window to the last line. -/
def goBottom (v : Viewport) : Viewport :=
  { v with offset := v.maxOffset }

/-- The window after a scroll key; nothing for any other key. -/
def scrollKey? (v : Viewport) (key : Key) : Option Viewport :=
  match key.name with
  | "up" | "k" => some (v.scrollUp 1)
  | "down" | "j" => some (v.scrollDown 1)
  | "pgup" | "ctrl+u" => some (v.scrollUp v.height)
  | "pgdown" | "ctrl+d" => some (v.scrollDown v.height)
  | "home" | "g" => some v.goTop
  | "end" | "G" => some v.goBottom
  | _ => none

/-- The window after a key that is a scroll key or does nothing. -/
def scrollKey (v : Viewport) (key : Key) : Viewport :=
  (v.scrollKey? key).getD v

def visible (v : Viewport) : List Line :=
  (v.lines.drop v.offset).take v.height

/-- How far down the window stands, in hundredths. -/
def percent (v : Viewport) : Nat :=
  if v.maxOffset = 0 then 100 else v.offset * 100 / v.maxOffset

end Viewport
end ClusterNav
