import ClusterNav.Proofs.FrameRows
import ClusterNav.Proofs.HostRoute
import Mathlib.Tactic.SplitIfs

/-!
# Fitting views into their room

A host fits its top view into the room that the rest of the frame leaves.  The
room depends on the screen and on the banner alone, since every view has two lines
below it.  To fit a view twice into the same room is to fit it once, whatever the
view is.

**Results.**
* `View.setSize_setSize`: fitting a view again changes nothing.
* `Host.bodySize_eq`: the room of the top view.
* `Host.resizeTop_resizeTop`: fitting the top view again changes nothing.
-/

namespace ClusterNav

/-! ## Windows -/

namespace Viewport

/-- A window of a size that stands within its lines. -/
structure Fits (v : Viewport) (width height : Nat) : Prop where
  width_eq : v.width = width
  height_eq : v.height = max height 1
  offset_le : v.offset ≤ v.maxOffset

theorem offset_clamp_le (v : Viewport) : v.clamp.offset ≤ v.clamp.maxOffset := by
  exact Nat.min_le_right _ _

theorem clamp_eq_self
    {v : Viewport}
    (h : v.offset ≤ v.maxOffset) :
    v.clamp = v := by
  rw [clamp, Nat.min_eq_left h]

theorem fits_setSize (v : Viewport) (width height : Nat) :
    (v.setSize width height).Fits width height :=
  ⟨rfl, rfl, offset_clamp_le _⟩

namespace Fits

variable {v : Viewport} {width height : Nat}

theorem setLines
    (h : v.Fits width height)
    (lines : List Line) :
    (v.setLines lines).Fits width height :=
  ⟨h.width_eq, h.height_eq, offset_clamp_le _⟩

theorem goBottom
    (h : v.Fits width height) :
    v.goBottom.Fits width height :=
  ⟨h.width_eq, h.height_eq, Nat.le_refl _⟩

/-- A window that fits is not changed by fitting it. -/
theorem setSize_eq
    (h : v.Fits width height) :
    v.setSize width height = v := by
  have hsized : { v with width := width, height := max height 1 } = v := by
    rw [← h.width_eq, ← h.height_eq]
  rw [setSize, hsized]
  exact clamp_eq_self h.offset_le

theorem setLines_eq
    (h : v.Fits width height) :
    v.setLines v.lines = v :=
  clamp_eq_self h.offset_le

end Fits

theorem setSize_setSize (v : Viewport) (width height : Nat) :
    (v.setSize width height).setSize width height = v.setSize width height :=
  (v.fits_setSize width height).setSize_eq

end Viewport

/-! ## Views -/

theorem DetailView.setSize_setSize (v : DetailView) (width height : Nat) :
    (v.setSize width height).setSize width height = v.setSize width height := by
  have hfits :=
    (v.viewport.fits_setSize width height).setLines (layout v.item v.data width)
  rw [setSize, setSize, hfits.setSize_eq]
  exact congrArg (fun w => { v with viewport := w }) hfits.setLines_eq

namespace LogView

theorem fits_relayout
    {v : LogView} {width height : Nat}
    (h : v.viewport.Fits width height) :
    v.relayout.viewport.Fits width height := by
  unfold relayout
  dsimp only
  split
  · exact (h.setLines _).goBottom
  · exact h.setLines _

theorem fits_setSize (v : LogView) (width height : Nat) :
    (v.setSize width height).viewport.Fits width height := by
  unfold setSize
  dsimp only
  split
  · exact fits_relayout (v.viewport.fits_setSize width height)
  · exact v.viewport.fits_setSize width height

/-- A log of the right width is not laid out again. -/
theorem setSize_eq_of_fits
    {v : LogView} {width height : Nat}
    (h : v.viewport.Fits width height) :
    v.setSize width height = v := by
  rw [setSize, h.setSize_eq, h.width_eq]
  simp

theorem setSize_setSize (v : LogView) (width height : Nat) :
    (v.setSize width height).setSize width height = v.setSize width height :=
  setSize_eq_of_fits (v.fits_setSize width height)

end LogView

namespace ColumnPicker

/-- The first of `total` rows to show on a page so that it holds the cursor; the
first free row brings the headings above it along. -/
def scrolledOffset (atFirst : Bool) (cursor page total offset : Nat) : Nat :=
  min
    (if atFirst then 0
      else if cursor < offset then cursor
      else if offset + page ≤ cursor then cursor + 1 - page
      else offset)
    (total - page)

theorem scrolledOffset_scrolledOffset
    (atFirst : Bool) (cursor total offset : Nat) {page : Nat}
    (hpage : 1 ≤ page) :
    scrolledOffset atFirst cursor page total (scrolledOffset atFirst cursor page total offset) =
      scrolledOffset atFirst cursor page total offset := by
  cases atFirst with
  | true =>
      rfl
  | false =>
      simp only [scrolledOffset, Bool.false_eq_true, if_false]
      split_ifs <;> omega

theorem followedOffset_eq (v : ColumnPicker) :
    v.followedOffset =
      scrolledOffset (firstFree? v.rows == some v.cursor && v.cursor < v.pageRows)
        v.cursor v.pageRows v.rows.length v.offset := by
  rfl

/-- The first row shown stays when the picker follows its cursor once more. -/
theorem follow_follow (v : ColumnPicker) :
    v.follow.follow = v.follow := by
  have hoffset : v.follow.followedOffset = v.followedOffset := by
    rw [followedOffset_eq v]
    exact scrolledOffset_scrolledOffset _ _ _ _ (Nat.le_max_right _ _)
  exact congrArg (fun offset => { v with offset := offset }) hoffset

theorem setSize_setSize (v : ColumnPicker) (width height : Nat) :
    (v.setSize width height).setSize width height = v.setSize width height :=
  follow_follow { v with width := width, height := height }

end ColumnPicker

/-- Fitting a view again into the same room changes nothing. -/
theorem View.setSize_setSize (v : View) (width height : Nat) :
    (v.setSize width height).setSize width height = v.setSize width height := by
  cases v with
  | list v =>
      rfl
  | detail v =>
      exact congrArg View.detail (v.setSize_setSize width height)
  | text v =>
      exact congrArg (fun w => View.text { v with viewport := w })
        (v.viewport.setSize_setSize width height)
  | log v =>
      exact congrArg View.log (v.setSize_setSize width height)
  | columns v =>
      exact congrArg View.columns (v.setSize_setSize width height)
  | help v =>
      exact congrArg (fun w => View.help { v with viewport := w })
        (v.viewport.setSize_setSize width height)
  | relations v | pods v | containers v | scope v | browser v =>
      rfl

/-! ## The top view of a host -/

namespace Host

variable (h : Host)

theorem withTop_withTop (u v : View) :
    (h.withTop u).withTop v = h.withTop v := by
  unfold withTop
  cases h.stack <;> rfl

@[simp] theorem height_withTop (v : View) : (h.withTop v).height = h.height := by
  rw [withTop_eq]

@[simp] theorem width_withTop (v : View) : (h.withTop v).width = h.width := by
  rw [withTop_eq]

@[simp] theorem notice_withTop (v : View) : (h.withTop v).notice = h.notice := by
  rw [withTop_eq]

/-- The rows of a frame around the lines of the top view. -/
def framing : Nat :=
  Frame.reservedRows (!h.notice.isEmpty) 2

/-- The room of the top view. -/
theorem bodySize_eq :
    h.bodySize =
      if h.height = 0 then (if h.width = 0 then 80 else h.width, 20)
      else (h.width, max (h.height - h.framing) 1) := by
  rw [bodySize, h.top.length_footer]
  rfl

@[simp] theorem bodySize_withTop (v : View) : (h.withTop v).bodySize = h.bodySize := by
  simp only [bodySize_eq, framing, height_withTop, width_withTop, notice_withTop]

@[simp] theorem bodySize_resizeTop : h.resizeTop.bodySize = h.bodySize := by
  rw [resizeTop, bodySize_withTop]

/-- A view in the room of the top view. -/
def fitted (v : View) : View :=
  v.setSize h.bodySize.1 h.bodySize.2

theorem resizeTop_eq : h.resizeTop = h.withTop (h.fitted h.top) := by
  rfl

@[simp] theorem height_resizeTop : h.resizeTop.height = h.height := by
  rw [resizeTop_eq, height_withTop]

@[simp] theorem fitted_resizeTop (v : View) : h.resizeTop.fitted v = h.fitted v := by
  rw [fitted, bodySize_resizeTop, fitted]

@[simp] theorem fitted_fitted (v : View) : h.fitted (h.fitted v) = h.fitted v := by
  exact v.setSize_setSize _ _

@[simp] theorem top_resizeTop : h.resizeTop.top = h.fitted h.top := by
  rw [resizeTop_eq, top_withTop]

/-- Fitting the top view again changes nothing. -/
theorem resizeTop_resizeTop : h.resizeTop.resizeTop = h.resizeTop := by
  rw [resizeTop_eq h.resizeTop, fitted_resizeTop, top_resizeTop, fitted_fitted, resizeTop_eq,
    withTop_withTop]

end Host
end ClusterNav
