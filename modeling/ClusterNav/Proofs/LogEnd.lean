import ClusterNav.Proofs.LogChanges
import ClusterNav.Proofs.ViewOrigins
import Mathlib.Data.List.Induction
import Mathlib.Data.List.TakeDrop

/-!
# The end of a log

A log is opened at its end and stays there, whatever is laid out again.  Two things take
it away from its end: a key that scrolls up, and an area that is lower than before.  The
window then keeps its first line and ends above the last one, also when the log is
followed.

**Results.**
* `Viewport.showsEnd_iff`: when a window shows the last line.
* `LogView.atBottom_after_iff`: what takes a log away from its end.
* `last_line_shown_iff`: the runs in which a log shows its last line all the time, and
  the runs of a host in which all followed logs do.
* `last_line_cut`: a followed log on a screen that gets lower.
-/

namespace ClusterNav

/-! ## Windows -/

namespace Viewport

/-- The last line stands in the window: the lines are those above the window and those
in it, which are not none. -/
def ShowsEnd (w : Viewport) : Prop :=
  w.visible ≠ [] ∧ w.lines.take w.offset ++ w.visible = w.lines

/-- A window of a size that stands within some lines. -/
structure InOrder (w : Viewport) : Prop where
  fits : w.Fits w.width w.height
  lines_ne_nil : w.lines ≠ []

variable {w u : Viewport} {k : Key}

theorem atBottom_iff : w.atBottom = true ↔ w.lines.length ≤ w.offset + w.height := by
  rw [atBottom, decide_eq_true_eq, maxOffset]
  omega

theorem InOrder.height_pos
    (hw : w.InOrder) :
    0 < w.height := by
  rw [hw.fits.height_eq]
  omega

/-- A window shows the last line exactly when it stands at the bottom. -/
theorem showsEnd_iff
    (hw : w.InOrder) :
    w.ShowsEnd ↔ w.atBottom = true := by
  have hheight := hw.height_pos
  have hoffset := hw.fits.offset_le
  have hlines := List.length_pos_iff.mpr hw.lines_ne_nil
  have hvisible : w.visible ≠ [] := by
    rw [← List.length_pos_iff, visible, List.length_take, List.length_drop]
    rw [maxOffset] at hoffset
    omega
  have hrest : w.lines.take w.offset ++ w.visible = w.lines ↔
      w.visible = w.lines.drop w.offset := by
    constructor
    · intro h
      rw [← List.append_right_inj (w.lines.take w.offset), h, List.take_append_drop]
    · intro h
      rw [h, List.take_append_drop]
  rw [ShowsEnd, hrest, visible, List.take_eq_self_iff, List.length_drop, atBottom_iff]
  constructor
  · rintro ⟨-, h⟩
    omega
  · intro h
    exact ⟨hvisible, by omega⟩

@[simp] theorem atBottom_goBottom (w : Viewport) : w.goBottom.atBottom = true := by
  simp [atBottom, goBottom, maxOffset]

theorem InOrder.goBottom
    (hw : w.InOrder) :
    w.goBottom.InOrder :=
  ⟨hw.fits.goBottom, hw.lines_ne_nil⟩

theorem InOrder.setSize
    (hw : w.InOrder)
    (width height : Nat) :
    (w.setSize width height).InOrder := by
  have hfits := w.fits_setSize width height
  refine ⟨⟨rfl, ?_, hfits.offset_le⟩, hw.lines_ne_nil⟩
  rw [hfits.height_eq]
  omega

theorem Scroll.inOrder
    (hscroll : w.Scroll k u)
    (hw : w.InOrder) :
    u.InOrder := by
  have hoffset := hw.fits.offset_le
  cases hscroll with
  | up n key moves =>
      refine ⟨⟨rfl, hw.fits.height_eq, ?_⟩, hw.lines_ne_nil⟩
      show w.offset - n ≤ w.maxOffset
      omega
  | down n key =>
      exact ⟨⟨rfl, hw.fits.height_eq, offset_clamp_le _⟩, hw.lines_ne_nil⟩

/-- From its bottom a window is taken by a key that scrolls up, when there are lines
above it. -/
theorem Scroll.atBottom_iff
    (hscroll : w.Scroll k u)
    (hw : w.InOrder)
    (hbottom : w.atBottom = true) :
    u.atBottom = true ↔ ¬ (k.scrollsUp = true ∧ w.height < w.lines.length) := by
  have hheight := hw.height_pos
  have hoffset := hw.fits.offset_le
  rw [Viewport.atBottom_iff] at hbottom ⊢
  rw [maxOffset] at hoffset
  cases hscroll with
  | up n key moves =>
      show w.lines.length ≤ w.offset - n + w.height ↔ _
      rw [key]
      simp only [true_and, Nat.not_lt]
      constructor
      · intro h
        by_contra hlong
        have hn := moves hheight (by omega)
        omega
      · intro h
        omega
  | down n key =>
      show w.lines.length ≤ min (w.offset + n) w.maxOffset + w.height ↔ _
      rw [key, maxOffset]
      simp only [Bool.false_eq_true, false_and, not_false_eq_true, iff_true]
      omega

end Viewport

/-! ## One log -/

namespace LogView

variable {v w : LogView}

theorem layout_ne_nil (v : LogView) : v.layout ≠ [] := by
  unfold layout
  split
  · simp
  · rename_i hrows
    simpa using hrows

/-- A log that is laid out has lines, and its window stays within them. -/
theorem inOrder_relayout
    (hv : v.viewport.Fits v.viewport.width v.viewport.height) :
    v.relayout.viewport.InOrder := by
  refine ⟨?_, ?_⟩
  · rw [width_relayout, height_relayout]
    exact fits_relayout hv
  · rw [lines_relayout]
    exact v.layout_ne_nil

/-- A log is laid out at its end when it is followed, was at its end before, or has no
lines below its window. -/
theorem atBottom_relayout_iff (v : LogView) :
    v.relayout.viewport.atBottom = true ↔
      (v.following = true ∨ v.viewport.atBottom = true) ∨
      v.layout.length ≤ v.viewport.offset + v.viewport.height := by
  rw [relayout]
  dsimp only
  split
  · rename_i hstick
    rw [Bool.or_eq_true] at hstick
    exact iff_of_true (Viewport.atBottom_goBottom _) (Or.inl hstick)
  · rename_i hstick
    rw [Bool.or_eq_true] at hstick
    rw [or_iff_right hstick, Viewport.atBottom_iff]
    show v.layout.length ≤
      min v.viewport.offset (v.layout.length - v.viewport.height) + v.viewport.height ↔ _
    omega

/-- A log that is followed, or at its end, is laid out at its end. -/
theorem atBottom_relayout
    (hv : v.following = true ∨ v.viewport.atBottom = true) :
    v.relayout.viewport.atBottom = true :=
  v.atBottom_relayout_iff.mpr (Or.inl hv)

section Lines

variable (v) (lines : List String)

theorem inOrder_withLines
    (hv : v.viewport.Fits v.viewport.width v.viewport.height) :
    (v.withLines lines).viewport.InOrder := by
  obtain ⟨search, -, -, hlines⟩ := v.withLines_eq lines
  rw [hlines]
  exact inOrder_relayout hv

theorem atBottom_withLines
    (hv : v.following = true ∨ v.viewport.atBottom = true) :
    (v.withLines lines).viewport.atBottom = true := by
  obtain ⟨search, -, -, hlines⟩ := v.withLines_eq lines
  rw [hlines]
  exact atBottom_relayout hv

end Lines

theorem inOrder_advance
    (hv : v.viewport.InOrder) :
    v.advance.viewport.InOrder := by
  unfold advance
  split
  · exact inOrder_withLines { v with followed := v.followed + 1 } _ hv.fits
  · exact hv

theorem inOrder_setSize
    (hv : v.viewport.InOrder)
    (width height : Nat) :
    (v.setSize width height).viewport.InOrder := by
  unfold setSize
  dsimp only
  split
  · exact inOrder_relayout (hv.setSize width height).fits
  · exact hv.setSize width height

/-- The window of a log in order stays so. -/
theorem Change.inOrder
    {input : LogInput}
    (hchange : v.Change input w)
    (hv : v.viewport.InOrder) :
    w.viewport.InOrder := by
  cases hchange with
  | stays | types text =>
      exact hv
  | searches search counts =>
      exact inOrder_relayout hv.fits
  | wraps =>
      exact inOrder_relayout hv.fits
  | reads previous window =>
      exact inOrder_withLines { v with previous := previous, window := window } _ hv.fits
  | toggles =>
      unfold toggleFollow
      dsimp only
      split
      · exact hv.goBottom
      · exact hv
  | scrolls k input_eq outside =>
      unfold scroll
      split
      · exact hv
      · rename_i u hu
        have hscrolled := (Viewport.scroll_of_scrollKey? hu).inOrder hv
        split <;> exact hscrolled
  | ticks input_eq following =>
      exact (inOrder_advance hv).goBottom
  | fits width height input_eq =>
      exact inOrder_setSize hv width height

section Opened

variable (kind : Kind) (item : Item) (container : Option String)

theorem inOrder_ofItem : (ofItem kind item container).viewport.InOrder := by
  apply Viewport.InOrder.goBottom
  apply inOrder_withLines
  exact ⟨rfl, rfl, Nat.le_refl _⟩

/-- A log that was just opened is not followed. -/
theorem ticking_ofItem : (ofItem kind item container).ticking = (false, 0) :=
  ticking_reload _

theorem atBottom_ofItem : (ofItem kind item container).viewport.atBottom = true :=
  Viewport.atBottom_goBottom _

theorem inOrder_run (inputs : List LogInput) :
    ((ofItem kind item container).run inputs).viewport.InOrder :=
  run_keeps (P := fun v => v.viewport.InOrder) (fun _ _ _ hv hchange => hchange.inOrder hv)
    (inOrder_ofItem kind item container) inputs

end Opened

/-! ## Areas that are lower -/

/-- The lines of a log that is as wide as asked for. -/
def layoutAt (v : LogView) (width : Nat) : List Line :=
  layout { v with viewport := { v.viewport with width := width } }

/-- A size takes the last line out of the window: a window of the new height that keeps
its first line ends above the last one.  When the log is laid out again, this must be
so of its new lines as well, and the log must not be followed. -/
structure Cuts (v : LogView) (width height : Nat) : Prop where
  ends_above : v.viewport.offset + max height 1 < v.viewport.lines.length
  relaid : v.wrapping = true → width ≠ v.viewport.width →
    v.following = false ∧ v.viewport.offset + max height 1 < (v.layoutAt width).length

/-- A log is at its end when it has got a size that does not cut it. -/
theorem atBottom_setSize_iff (v : LogView) (width height : Nat) :
    (v.setSize width height).viewport.atBottom = true ↔ ¬ v.Cuts width height := by
  have hsized : (v.viewport.setSize width height).atBottom = true ↔
      v.viewport.lines.length ≤ v.viewport.offset + max height 1 := by
    rw [Viewport.atBottom_iff]
    show v.viewport.lines.length ≤ min v.viewport.offset
      (v.viewport.lines.length - max height 1) + max height 1 ↔ _
    omega
  rw [setSize]
  split
  · rename_i hrelaid
    rw [Bool.and_eq_true, bne_iff_ne] at hrelaid
    rw [atBottom_relayout_iff, hsized]
    show (v.following = true ∨ _) ∨ (v.layoutAt width).length ≤
      min v.viewport.offset (v.viewport.lines.length - max height 1) + max height 1 ↔ _
    constructor
    · intro hend hcuts
      obtain ⟨hfollowing, hends⟩ := hcuts.relaid hrelaid.1 hrelaid.2
      have habove := hcuts.ends_above
      rcases hend with (hfollows | hshown) | hshown
      · simp [hfollowing] at hfollows
      · omega
      · omega
    · intro hcuts
      by_contra hend
      simp only [not_or, Bool.not_eq_true, Nat.not_le] at hend
      obtain ⟨⟨hfollowing, habove⟩, hends⟩ := hend
      exact hcuts ⟨habove, fun _ _ => ⟨hfollowing, by omega⟩⟩
  · rename_i hkept
    rw [hsized]
    constructor
    · intro hshown hcuts
      have habove := hcuts.ends_above
      omega
    · intro hcuts
      by_contra hshown
      refine hcuts ⟨by omega, fun hwrapping hwidth => absurd ?_ hkept⟩
      rw [Bool.and_eq_true, bne_iff_ne]
      exact ⟨hwrapping, hwidth⟩

/-! ## What takes a log away from its end -/

/-- An input that takes a log away from its end: a size that cuts it, or a key that
scrolls up outside of the prompt, when there are lines above the window. -/
inductive Leaves (v : LogView) : LogInput → Prop
  | cut (width height : Nat) (cuts : v.Cuts width height) : Leaves v (.fit width height)
  | up (k : Key) (outside : v.takesAllKeys = false) (key : k.scrollsUp = true)
      (long : v.viewport.height < v.viewport.lines.length) : Leaves v (.event (.key k))

/-- Outside of the prompt a key that scrolls does nothing else. -/
theorem view_key_of_scrollsUp
    {k : Key}
    (houtside : v.takesAllKeys = false)
    (hk : k.scrollsUp = true) :
    (v.key k).view = v.scroll k := by
  obtain ⟨name⟩ := k
  simp only [Key.scrollsUp, Key.isAny, List.contains_eq_mem, decide_eq_true_eq, List.mem_cons,
    List.not_mem_nil, or_false] at hk
  unfold key
  cases hsearch : v.search with
  | typing text =>
      simp [takesAllKeys, hsearch] at houtside
  | off | applied needle found =>
      rcases hk with rfl | rfl | rfl | rfl | rfl | rfl <;> rfl

/-- A key that scrolls up takes a log away from its end when there are lines above the
window. -/
theorem atBottom_scroll_iff
    {k : Key}
    (hv : v.viewport.InOrder)
    (hbottom : v.viewport.atBottom = true) :
    (v.scroll k).viewport.atBottom = true ↔
      ¬ (k.scrollsUp = true ∧ v.viewport.height < v.viewport.lines.length) := by
  rw [viewport_scroll, Viewport.scrollKey]
  cases hu : v.viewport.scrollKey? k with
  | some u =>
      exact (Viewport.scroll_of_scrollKey? hu).atBottom_iff hv hbottom
  | none =>
      refine iff_of_true hbottom ?_
      rintro ⟨hk, -⟩
      have hsome := Viewport.isSome_scrollKey? (w := v.viewport) hk
      rw [hu] at hsome
      cases hsome

/-- What takes a log away from its end, and what does not. -/
theorem atBottom_after_iff
    (hv : v.viewport.InOrder)
    (hbottom : v.viewport.atBottom = true)
    (input : LogInput) :
    (v.after input).viewport.atBottom = true ↔ ¬ v.Leaves input := by
  constructor
  · intro hafter hleaves
    cases hleaves with
    | cut width height cuts =>
        exact (v.atBottom_setSize_iff width height).mp hafter cuts
    | up k outside key long =>
        change (v.key k).view.viewport.atBottom = true at hafter
        rw [view_key_of_scrollsUp outside key, atBottom_scroll_iff hv hbottom] at hafter
        exact hafter ⟨key, long⟩
  · intro hstays
    have hchange := v.change_after input
    generalize v.after input = w at hchange ⊢
    cases hchange with
    | stays | types text =>
        exact hbottom
    | searches search counts =>
        exact atBottom_relayout (Or.inr hbottom)
    | wraps =>
        exact atBottom_relayout (Or.inr hbottom)
    | reads previous window =>
        exact atBottom_withLines { v with previous := previous, window := window } _
          (Or.inr hbottom)
    | toggles =>
        unfold toggleFollow
        dsimp only
        split
        · exact Viewport.atBottom_goBottom _
        · exact hbottom
    | scrolls k input_eq outside =>
        subst input_eq
        rw [atBottom_scroll_iff hv hbottom]
        rintro ⟨hk, hlong⟩
        exact hstays (.up k outside hk hlong)
    | ticks input_eq following =>
        exact Viewport.atBottom_goBottom _
    | fits width height input_eq =>
        subst input_eq
        rw [atBottom_setSize_iff]
        exact fun hcuts => hstays (.cut width height hcuts)

/-- A log that is followed after an input is at its end, unless it got a size that cuts
it. -/
theorem Change.atBottom_of_following
    {input : LogInput}
    (hchange : v.Change input w)
    (hv : v.following = true → v.viewport.atBottom = true)
    (hcuts : ∀ width height, input = .fit width height → ¬ v.Cuts width height)
    (hw : w.following = true) :
    w.viewport.atBottom = true := by
  cases hchange with
  | stays | types text =>
      exact hv hw
  | searches search counts =>
      exact atBottom_relayout (Or.inl hw)
  | wraps =>
      exact atBottom_relayout (Or.inl hw)
  | reads previous window =>
      refine atBottom_withLines { v with previous := previous, window := window } _ (Or.inl ?_)
      have hticking := ticking_reload { v with previous := previous, window := window }
      exact (congrArg Prod.fst hticking).symm.trans hw
  | toggles =>
      unfold toggleFollow at hw ⊢
      dsimp only at hw ⊢
      split
      · exact Viewport.atBottom_goBottom _
      · rename_i hoff
        rw [if_neg hoff] at hw
        exact absurd hw hoff
  | scrolls k input_eq outside =>
      unfold scroll at hw ⊢
      split at hw
      · exact hv hw
      · split at hw
        · cases hw
        · rename_i hstays
          rw [if_neg hstays]
          have hfollowing : v.following = true := hw
          simpa [hfollowing] using hstays
  | ticks input_eq following =>
      exact Viewport.atBottom_goBottom _
  | fits width height input_eq =>
      exact (v.atBottom_setSize_iff width height).mpr (hcuts width height input_eq)

end LogView

/-! ## Runs -/

/-- What holds at first, and after a step exactly when the step does not break it, holds
all the time exactly in the runs without a step that breaks it. -/
theorem forall_prefix_iff
    {ι : Type} {P : List ι → Prop} {Breaks : List ι → ι → Prop}
    (hfirst : P [])
    (hstep : ∀ past a, P past → (P (past ++ [a]) ↔ ¬ Breaks past a))
    (steps : List ι) :
    (∀ past, past <+: steps → P past) ↔
      ∀ past a, past ++ [a] <+: steps → ¬ Breaks past a := by
  constructor
  · intro hall past a hprefix
    have hpast : past <+: steps := (List.prefix_append past [a]).trans hprefix
    exact (hstep past a (hall past hpast)).mp (hall _ hprefix)
  · intro hnone past
    induction past using List.reverseRecOn with
    | nil =>
        intro _
        exact hfirst
    | append_singleton past a ih =>
        intro hprefix
        have hpast : past <+: steps := (List.prefix_append past [a]).trans hprefix
        exact (hstep past a (ih hpast)).mpr (hnone past a hprefix)

/-! ## The logs of a host -/

namespace Host

variable {h : Host} {v : LogView}

theorem mem_logs_iff : v ∈ h.logs ↔ View.log v ∈ h.views := by
  rw [logs, List.mem_filterMap]
  constructor
  · rintro ⟨u, hu, hlog⟩
    cases u <;> cases hlog
    exact hu
  · intro hv
    exact ⟨.log v, hv, rfl⟩

/-- Only a log is fitted to a log. -/
theorem eq_log_of_fitted
    {u : View}
    (hv : View.log v = h.fitted u) :
    ∃ w, u = .log w ∧ v = w.setSize h.bodySize.1 h.bodySize.2 := by
  cases u with
  | log w =>
      cases hv
      exact ⟨w, rfl, rfl⟩
  | list w | detail w | text w | relations w | pods w | containers w | columns w | scope w
  | browser w | help w =>
      cases hv

/-- Where a log of the next state comes from: it was there, and may have got a size or
have answered, or it was just opened. -/
inductive LogOrigin (h : Host) (room : Nat × Nat) : LogView → Prop
  | waits (v : LogView) (before : v ∈ h.logs) : LogOrigin h room v
  | fits (v : LogView) (before : v ∈ h.logs) : LogOrigin h room (v.setSize room.1 room.2)
  | answers (v : LogView) (before : v ∈ h.logs) (e : Event) :
      LogOrigin h room (v.respond e).view
  | opens (kind : Kind) (item : Item) (container : Option String) :
      LogOrigin h room ((LogView.ofItem kind item container).setSize room.1 room.2)

theorem log_origin
    {event : Event}
    (hv : v ∈ (h.step event).1.logs) :
    h.LogOrigin (h.step event).1.bodySize v := by
  rw [mem_logs_iff] at hv
  obtain ⟨above, below, hviews⟩ := List.append_of_mem hv
  have horigin := h.origin_step ⟨above, hviews.symm⟩
  cases horigin with
  | waits u place same ns idle =>
      have hu : u ∈ h.views := by
        rw [← h.views_heard event]
        exact place.mem List.mem_cons_self
      rcases same with rfl | hfitted
      · exact .waits v (mem_logs_iff.mpr hu)
      · rw [← h.step_eq_follow] at hfitted
        obtain ⟨w, rfl, rfl⟩ := eq_log_of_fitted hfitted
        exact .fits w (mem_logs_iff.mpr hu)
  | answers e route view place =>
      rw [answer_heard] at view
      have htop := h.top_mem_views
      rw [answer] at view
      cases hu : h.top with
      | log w =>
          rw [hu] at view htop
          cases view
          exact .answers w (mem_logs_iff.mpr htop) e
      | list w | detail w | text w | relations w | pods w | containers w | columns w | scope w
      | browser w | help w =>
          rw [hu] at view
          cases view
  | opens next view =>
      rw [← h.step_eq_follow] at view
      obtain ⟨w, hw, rfl⟩ := eq_log_of_fitted view
      cases next with
      | log kind item container =>
          cases hw
          exact .opens kind item container
      | list kind | detail kind item | text page kind item | relations kind item
      | pods kind items | containers kind item names | columns choice | scope picker | browser
      | help =>
          cases hw
  | starts kind scope view =>
      obtain ⟨w, hw, -⟩ := eq_log_of_fitted view
      cases scope <;> cases hw

/-- The windows of all logs are in order. -/
theorem inOrder_logs
    (session : Session) (kind : Kind) (events : List Event) :
    ∀ v ∈ ((ofKind session kind).run events).logs, v.viewport.InOrder := by
  refine run_induction (P := fun h => ∀ v ∈ h.logs, v.viewport.InOrder) ?_ ?_ events
  · intro h event hlogs v hv
    cases log_origin hv with
    | waits v before =>
        exact hlogs v before
    | fits w before =>
        exact LogView.inOrder_setSize (hlogs w before) _ _
    | answers w before e =>
        exact (w.change_after (.event e)).inOrder (hlogs w before)
    | opens kind item container =>
        exact LogView.inOrder_setSize (LogView.inOrder_ofItem kind item container) _ _
  · intro v hv
    cases hv

/-- All followed logs show their last line. -/
def FollowedShown (h : Host) : Prop :=
  ∀ v ∈ h.logs, v.following = true → v.viewport.ShowsEnd

/-- A step gives a followed log a size that cuts it. -/
def CutsFollowed (h : Host) (event : Event) : Prop :=
  ∃ v ∈ h.logs, v.following = true ∧
    let room := (h.step event).1.bodySize
    v.Cuts room.1 room.2 ∧ v.setSize room.1 room.2 ∈ (h.step event).1.logs

theorem followedShown_step_iff
    (hbefore : ∀ v ∈ h.logs, v.viewport.InOrder)
    {event : Event}
    (hafter : ∀ v ∈ (h.step event).1.logs, v.viewport.InOrder)
    (hshown : h.FollowedShown) :
    (h.step event).1.FollowedShown ↔ ¬ h.CutsFollowed event := by
  constructor
  · rintro hend ⟨v, -, hfollowing, hcuts, hv⟩
    have hticking := v.ticking_setSize (h.step event).1.bodySize.1 (h.step event).1.bodySize.2
    have hfollows := (congrArg Prod.fst hticking).trans hfollowing
    have hbottom := (Viewport.showsEnd_iff (hafter _ hv)).mp (hend _ hv hfollows)
    exact (v.atBottom_setSize_iff _ _).mp hbottom hcuts
  · intro hcuts v hv hfollowing
    rw [Viewport.showsEnd_iff (hafter v hv)]
    have hbottom (w : LogView) (hw : w ∈ h.logs) (hfollows : w.following = true) :
        w.viewport.atBottom = true :=
      (Viewport.showsEnd_iff (hbefore w hw)).mp (hshown w hw hfollows)
    cases log_origin hv with
    | waits v before =>
        exact hbottom v before hfollowing
    | fits w before =>
        have hticking := w.ticking_setSize (h.step event).1.bodySize.1 (h.step event).1.bodySize.2
        have hfollows : w.following = true := (congrArg Prod.fst hticking).symm.trans hfollowing
        rw [LogView.atBottom_setSize_iff]
        exact fun hcut => hcuts ⟨w, before, hfollows, hcut, hv⟩
    | answers w before e =>
        exact (w.change_after (.event e)).atBottom_of_following (hbottom w before) (by simp)
          hfollowing
    | opens kind item container =>
        have hopened := LogView.ticking_ofItem kind item container
        rw [← LogView.ticking_setSize _ (h.step event).1.bodySize.1 (h.step event).1.bodySize.2]
          at hopened
        have hoff := congrArg Prod.fst hopened
        exact absurd (hfollowing.symm.trans hoff) (by simp)

end Host

/-- A log is opened at its end, and a run keeps it there if and only if no input of the
run takes it away: neither a size that cuts it nor, outside of the prompt, a key that
scrolls up where there are lines above the window.  In a run of a host all followed logs
show their last line all the time if and only if no step gives one of them a size that
cuts it. -/
theorem last_line_shown_iff
    (kind : Kind) (item : Item) (container : Option String) (inputs : List LogInput)
    (session : Session) (rootKind : Kind) (events : List Event) :
    let log := LogView.ofItem kind item container
    let host := Host.ofKind session rootKind
    log.viewport.ShowsEnd ∧
    ((∀ past, past <+: inputs → (log.run past).viewport.ShowsEnd) ↔
      ∀ past input, past ++ [input] <+: inputs → ¬ (log.run past).Leaves input) ∧
    ((∀ past, past <+: events → (host.run past).FollowedShown) ↔
      ∀ past event, past ++ [event] <+: events → ¬ (host.run past).CutsFollowed event) := by
  intro log host
  have hlogs := LogView.inOrder_run kind item container
  have hfirst : log.viewport.ShowsEnd := by
    rw [Viewport.showsEnd_iff (LogView.inOrder_ofItem kind item container)]
    exact LogView.atBottom_ofItem kind item container
  refine ⟨hfirst, forall_prefix_iff hfirst ?_ inputs, forall_prefix_iff ?_ ?_ events⟩
  · intro past input hshown
    rw [Viewport.showsEnd_iff (hlogs past)] at hshown
    rw [Viewport.showsEnd_iff (hlogs _), LogView.run_concat]
    exact LogView.atBottom_after_iff (hlogs past) hshown input
  · -- The first view is a list.
    intro v hv
    cases hv
  · intro past event hshown
    have hafter := Host.inOrder_logs session rootKind (past ++ [event])
    rw [Host.run_append] at hafter ⊢
    exact Host.followedShown_step_iff (Host.inOrder_logs session rootKind past) hafter hshown

/-- No key scrolls up, and a log is not at its end: it got a lower area, before it was
followed or afterwards. -/
theorem last_line_cut :
    (¬ ∀ (kind : Kind) (item : Item) (container : Option String) (inputs : List LogInput),
      (∀ k, .event (.key k) ∈ inputs → k.scrollsUp = false) →
      ((LogView.ofItem kind item container).run inputs).viewport.ShowsEnd) ∧
    (¬ ∀ (session : Session) (kind : Kind) (events : List Event),
      ((Host.ofKind session kind).run events).FollowedShown) := by
  constructor
  · intro hshown
    let item : Item := (Kind.statefulSet.items .all).headD default
    have hcut : ((LogView.ofItem .statefulSet item none).run [.fit 80 10]).viewport.atBottom =
        false := by
      decide +kernel
    have hend := hshown .statefulSet item none [.fit 80 10] (by simp)
    rw [Viewport.showsEnd_iff (LogView.inOrder_run _ _ _ _), hcut] at hend
    cases hend
  · intro hshown
    let session : Session := .ofRegistry .standard .empty
    let events : List Event := [.key ⟨"o"⟩, .key ⟨"f"⟩, .resize 100 12]
    let lower : Host := (Host.ofKind session .statefulSet).run events
    have hlogs : (lower.logs.map fun v => (v.following, v.viewport.atBottom)) =
        [(true, false)] := by
      decide +kernel
    have hmem : (true, false) ∈ lower.logs.map fun v => (v.following, v.viewport.atBottom) := by
      rw [hlogs]
      exact List.mem_singleton_self _
    obtain ⟨v, hv, hstate⟩ := List.mem_map.mp hmem
    obtain ⟨hfollowing, hcut⟩ := Prod.mk.inj hstate
    have hend := hshown session .statefulSet events v hv hfollowing
    rw [Viewport.showsEnd_iff (Host.inOrder_logs _ _ _ v hv), hcut] at hend
    cases hend

end ClusterNav
