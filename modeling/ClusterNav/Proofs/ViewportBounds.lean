import ClusterNav.Proofs.LogChanges

/-!
# Windows within their lines

A window is fitted, filled and scrolled in any order.  Its first line, its height and
the number of its lines change apart from each other, and every operation puts the
window back within its lines.  So it is always filled as far as there are lines, and
the share of the lines above it tells when it has come to the end.

**Results.**
* `Viewport.Within`: a window within lines, of a height.
* `Viewport.Within.performAll`: every sequence of operations leaves it so.
* `viewport_stays_within_lines`: what this says of the lines shown and of the share.
-/

namespace ClusterNav
namespace Viewport

/-- A window of a height that stands within lines. -/
structure Within (lines : List Line) (height : Nat) (v : Viewport) : Prop where
  lines_eq : v.lines = lines
  height_eq : v.height = height
  offset_le : v.offset ≤ v.maxOffset

theorem within_unsized : unsized.Within [] 0 :=
  ⟨rfl, rfl, Nat.le_refl _⟩

theorem within_ofLines (lines : List Line) : (ofLines lines).Within lines 20 :=
  ⟨rfl, rfl, Nat.zero_le _⟩

/-! ## Operations -/

/-- What can be done to a window. -/
inductive Operation
  | setSize (width height : Nat)
  | setLines (lines : List Line)
  | scrollDown (n : Nat)
  | scrollUp (n : Nat)
  | goTop
  | goBottom
  | scrollKey (k : Key)

def perform (v : Viewport) : Operation → Viewport
  | .setSize width height => v.setSize width height
  | .setLines lines => v.setLines lines
  | .scrollDown n => v.scrollDown n
  | .scrollUp n => v.scrollUp n
  | .goTop => v.goTop
  | .goBottom => v.goBottom
  | .scrollKey k => v.scrollKey k

def performAll (v : Viewport) (operations : List Operation) : Viewport :=
  operations.foldl perform v

/-- The lines of a window after an operation. -/
def Operation.linesAfter (lines : List Line) : Operation → List Line
  | .setLines others => others
  | _ => lines

/-- The height of a window after an operation. -/
def Operation.heightAfter (height : Nat) : Operation → Nat
  | .setSize _ n => max n 1
  | _ => height

namespace Within

variable {lines : List Line} {height : Nat} {v : Viewport}

theorem setSize
    (h : v.Within lines height)
    (width n : Nat) :
    (v.setSize width n).Within lines (max n 1) :=
  ⟨h.lines_eq, rfl, offset_clamp_le _⟩

theorem setLines
    (h : v.Within lines height)
    (others : List Line) :
    (v.setLines others).Within others height :=
  ⟨rfl, h.height_eq, offset_clamp_le _⟩

theorem scrollDown
    (h : v.Within lines height)
    (n : Nat) :
    (v.scrollDown n).Within lines height :=
  ⟨h.lines_eq, h.height_eq, offset_clamp_le _⟩

theorem scrollUp
    (h : v.Within lines height)
    (n : Nat) :
    (v.scrollUp n).Within lines height :=
  ⟨h.lines_eq, h.height_eq, Nat.le_trans (Nat.sub_le _ _) h.offset_le⟩

/-- Keys scroll or do nothing. -/
theorem scrollKey
    (h : v.Within lines height)
    (k : Key) :
    (v.scrollKey k).Within lines height := by
  unfold Viewport.scrollKey
  cases hkey : v.scrollKey? k with
  | none =>
      exact h
  | some u =>
      cases scroll_of_scrollKey? hkey with
      | up n =>
          exact h.scrollUp n
      | down n =>
          exact h.scrollDown n

/-- Every operation leaves a window within its lines. -/
theorem perform
    (h : v.Within lines height)
    (operation : Operation) :
    (v.perform operation).Within (operation.linesAfter lines) (operation.heightAfter height) := by
  cases operation with
  | setSize width n =>
      exact h.setSize width n
  | setLines others =>
      exact h.setLines others
  | scrollDown n =>
      exact h.scrollDown n
  | scrollUp n =>
      exact h.scrollUp n
  | goTop =>
      show v.goTop.Within lines height
      rw [goTop_eq]
      exact h.scrollUp _
  | goBottom =>
      show v.goBottom.Within lines height
      rw [goBottom_eq]
      exact h.scrollDown _
  | scrollKey k =>
      exact h.scrollKey k

theorem performAll
    (h : v.Within lines height)
    (operations : List Operation) :
    (v.performAll operations).Within
      (operations.foldl Operation.linesAfter lines)
      (operations.foldl Operation.heightAfter height) := by
  induction operations generalizing v lines height with
  | nil =>
      exact h
  | cons operation rest ih =>
      exact ih (h.perform operation)

/-! ## What a window shows -/

/-- A window is filled as far as there are lines. -/
theorem length_visible
    (h : v.Within lines height) :
    v.visible.length = min height lines.length := by
  have hoffset := h.offset_le
  rw [maxOffset, h.lines_eq, h.height_eq] at hoffset
  rw [visible, List.length_take, List.length_drop, h.lines_eq, h.height_eq]
  omega

end Within

variable {v : Viewport}

/-- The lines shown follow each other from the first one on. -/
theorem getElem?_visible
    {i : Nat}
    (hi : i < v.visible.length) :
    v.visible[i]? = v.lines[v.offset + i]? := by
  rw [visible, List.length_take] at hi
  rw [visible, List.getElem?_take_of_lt (by omega), List.getElem?_drop]

/-! ## The share of the lines above a window -/

theorem percent_eq_of_fits
    (h : v.maxOffset = 0) :
    v.percent = 100 :=
  if_pos h

theorem percent_eq_of_pos
    (h : 0 < v.maxOffset) :
    v.percent = v.offset * 100 / v.maxOffset :=
  if_neg (Nat.ne_of_gt h)

theorem percent_le
    (h : v.offset ≤ v.maxOffset) :
    v.percent ≤ 100 := by
  rcases Nat.eq_zero_or_pos v.maxOffset with hzero | hpos
  · exact Nat.le_of_eq (percent_eq_of_fits hzero)
  · rw [percent_eq_of_pos hpos]
    exact Nat.div_le_of_le_mul (Nat.mul_le_mul_right 100 h)

/-- All lines that can stand above a window do so exactly at its bottom. -/
theorem percent_eq_hundred_iff
    (h : v.offset ≤ v.maxOffset) :
    v.percent = 100 ↔ v.atBottom = true := by
  rw [atBottom, decide_eq_true_eq]
  rcases Nat.eq_zero_or_pos v.maxOffset with hzero | hpos
  · exact iff_of_true (percent_eq_of_fits hzero) (hzero ▸ Nat.zero_le _)
  · rw [percent_eq_of_pos hpos]
    constructor
    · intro hfull
      refine Nat.le_of_not_lt fun habove => ?_
      have hless : v.offset * 100 / v.maxOffset < 100 := by
        apply Nat.div_lt_of_lt_mul
        omega
      omega
    · intro hbottom
      rw [Nat.le_antisymm h hbottom]
      exact Nat.mul_div_cancel_left 100 hpos

/-- A new window: over lines, or without lines and size. -/
def opened : Option (List Line) → Viewport
  | some lines => ofLines lines
  | none => unsized

theorem within_opened (start : Option (List Line)) :
    (opened start).Within (start.getD []) (opened start).height := by
  cases start with
  | none =>
      exact within_unsized
  | some lines =>
      exact within_ofLines lines

end Viewport

open Viewport in
/-- After any operations on a new window, with or without lines: its lines are those set
last and its height is the one set last, at least one.  It does not start below the
last place that fills it.  It shows as many lines as it is high, or all of them, one
after the other from its first line on.  It is at the bottom exactly when the share of
lines above it is a hundred in a hundred, and the share is never more. -/
theorem viewport_stays_within_lines (start : Option (List Line)) (operations : List Operation) :
    let v := (opened start).performAll operations
    v.lines = operations.foldl Operation.linesAfter (start.getD []) ∧
    v.height = operations.foldl Operation.heightAfter (opened start).height ∧
    v.offset ≤ v.maxOffset ∧
    v.visible.length = min v.height v.lines.length ∧
    (∀ i < v.visible.length, v.visible[i]? = v.lines[v.offset + i]?) ∧
    (v.atBottom = true ↔ v.percent = 100) ∧
    v.percent ≤ 100 := by
  intro v
  have h := (within_opened start).performAll operations
  change v.Within _ _ at h
  have hlength := h.length_visible
  rw [← h.lines_eq, ← h.height_eq] at hlength
  refine ⟨h.lines_eq, h.height_eq, h.offset_le, hlength, ?_,
    (percent_eq_hundred_iff h.offset_le).symm, percent_le h.offset_le⟩
  intro i hi
  exact getElem?_visible hi

end ClusterNav
