import ClusterNav.Proofs.CursorShown
import ClusterNav.Proofs.HeldColumns

/-!
# The width of a list

The room of the top view is as wide as the screen, or of the usual width before the
screen has a size.  A view gets its width with its room, and a list that answers an event
keeps it.  So the list on top is always as wide as its room, and this changes only with
the size of the screen.

**Results.**
* `Host.screenSize_step`, `Host.screenSize_run`: nothing but a new size changes the screen.
* `Host.wide_step`, `Host.wide_run`: the list on top is as wide as its room.
* `Host.Wide.width_run`: on one screen all lists on top have the same width.
-/

namespace ClusterNav

/-! ## One list -/

namespace ListView

variable (v : ListView)

theorem width_cycleSort : v.cycleSort.width = v.width := by
  unfold cycleSort
  split
  · rfl
  · split <;> rfl

theorem width_syncNamespace (ns : NamespaceScope) : (v.syncNamespace ns).width = v.width := by
  unfold syncNamespace
  split <;> rfl

theorem width_key (session : Session) (k : Key) : (v.key session k).view.width = v.width := by
  have hanswer := v.keyAnswer_key session k
  generalize v.key session k = r at hanswer ⊢
  cases hanswer with
  | sorts =>
      exact v.width_cycleSort
  | edits | finds | opensFilter | armsFind | opensColumns | clearsFilter | leaves | opensItem
  | selects | moves | follows | ignores =>
      rfl

/-- Whatever a list answers to, it keeps its width. -/
theorem width_respond (session : Session) (event : Event) :
    (v.respond session event).view.width = v.width := by
  have hsync := v.width_syncNamespace session.ns
  cases event with
  | key k =>
      exact ((v.syncNamespace session.ns).width_key session k).trans hsync
  | resize width height | message m =>
      exact hsync

end ListView

/-! ## The screen -/

namespace Host

def screenSize (h : Host) : Nat × Nat :=
  (h.width, h.height)

variable {h : Host}

@[simp] theorem screenSize_withTop (h : Host) (v : View) :
    (h.withTop v).screenSize = h.screenSize := by
  rw [screenSize, width_withTop, height_withTop]
  rfl

@[simp] theorem screenSize_resizeTop (h : Host) : h.resizeTop.screenSize = h.screenSize := by
  rw [resizeTop_eq, screenSize_withTop]

theorem screenSize_pop (h : Host) : h.pop.screenSize = h.screenSize := by
  unfold pop
  split
  · rw [screenSize_resizeTop]
    rfl
  · rw [screenSize_resizeTop]
    rfl
  · rfl

theorem screenSize_move (h : Host) (m : Move) : (h.move m).screenSize = h.screenSize := by
  cases m with
  | stay =>
      rfl
  | push next =>
      exact screenSize_resizeTop _
  | replace next =>
      rw [move, replace, screenSize_resizeTop, screenSize_withTop]
  | pop =>
      exact h.screenSize_pop

theorem screenSize_widen (h : Host) : h.widen.screenSize = h.screenSize := by
  unfold widen
  split
  · rfl
  · exact screenSize_resizeTop _

theorem screenSize_follow
    {r : Route}
    (hsize : ∀ width height, r ≠ .fit width height) :
    (h.follow r).1.screenSize = h.screenSize := by
  cases r with
  | fit width height =>
      exact absurd rfl (hsize width height)
  | select picker value =>
      obtain ⟨-, -, -, -, hwidth, hheight, -⟩ := h.fields_select picker value
      exact Prod.ext hwidth hheight
  | quit =>
      rfl
  | hand event =>
      rw [follow, deliver_eq, screenSize_move, answered, screenSize_withTop]
      rfl
  | back =>
      exact h.screenSize_pop
  | widen =>
      exact h.screenSize_widen
  | goTo kind =>
      exact screenSize_resizeTop _
  | push next =>
      exact screenSize_resizeTop _

/-- Nothing but a new size changes the screen. -/
theorem screenSize_step
    {event : Event}
    (hsize : ∀ width height, event ≠ .resize width height) :
    (h.step event).1.screenSize = h.screenSize := by
  have hheard : (h.heard event).screenSize = h.screenSize := by
    cases event <;> rfl
  rw [step_eq_follow, screenSize_follow, hheard]
  intro width height hroute
  exact hsize width height (h.eq_resize_of_route_eq_fit hroute)

theorem screenSize_run
    {events : List Event}
    (hsize : ∀ event ∈ events, ∀ width height, event ≠ .resize width height) :
    (h.run events).screenSize = h.screenSize := by
  induction events generalizing h with
  | nil =>
      rfl
  | cons event rest ih =>
      rw [run, ih fun later hlater => hsize later (List.mem_cons_of_mem _ hlater)]
      exact screenSize_step (hsize event List.mem_cons_self)

/-! ## The width of the room -/

/-- The width of the room depends on the screen alone. -/
theorem bodyWidth_congr
    {g : Host}
    (hscreen : g.screenSize = h.screenSize) :
    g.bodySize.1 = h.bodySize.1 := by
  obtain ⟨hwidth, hheight⟩ := Prod.mk.inj hscreen
  rw [bodySize_eq, bodySize_eq, hwidth, hheight]
  split <;> rfl

/-- A list on top is as wide as its room. -/
def Wide (h : Host) : Prop :=
  h.top.IfList fun v => v.width = h.bodySize.1

/-- A view that got its room is as wide. -/
theorem wide_resizeTop (h : Host) : h.resizeTop.Wide := by
  intro v hv
  rw [top_resizeTop] at hv
  obtain ⟨w, -, rfl⟩ := eq_list_of_fitted hv.symm
  rw [bodySize_resizeTop]
  rfl

theorem Wide.answered
    (hw : h.Wide)
    (event : Event) :
    (h.answered event).Wide := by
  have hwidth : (h.answered event).bodySize.1 = h.bodySize.1 :=
    bodyWidth_congr (screenSize_withTop _ _)
  rw [Wide, hwidth, Host.answered, top_withTop]
  refine View.IfList.respond hw fun v hv => ?_
  exact (v.width_respond _ event).trans hv

theorem Wide.settle
    {g : Host}
    (hw : h.Wide)
    (hsettling : h.Settling g) :
    g.Wide := by
  cases hsettling with
  | fits height fitted =>
      rw [← fitted]
      exact g.wide_resizeTop
  | answers event eq =>
      rw [eq]
      exact hw.answered event
  | stays eq =>
      rw [eq]
      exact hw
  | warns text scope bottom eq =>
      subst eq
      intro v hv
      exact (hw v hv).trans (bodyWidth_congr rfl)

/-- In every step the list on top stays as wide as its room, or gets to be. -/
theorem wide_step
    (hw : h.Wide)
    (event : Event) :
    (h.step event).1.Wide := by
  have hheard : (h.heard event).Wide := by
    cases event with
    | key k =>
        exact fun v hv => (hw v hv).trans (bodyWidth_congr rfl)
    | resize width height | message m =>
        exact hw
  rw [step_eq_follow]
  by_cases hfit : ∃ width height, h.route event = .fit width height
  · obtain ⟨width, height, hroute⟩ := hfit
    rw [hroute]
    exact wide_resizeTop _
  · apply hheard.settle
    apply settling_follow
    · exact fun width height hroute => hfit ⟨width, height, hroute⟩
    · intro hroute
      cases event <;> exact h.stack_of_route_eq_widen hroute

/-- The list on top of every run is as wide as its room. -/
theorem wide_run (session : Session) (kind : Kind) (events : List Event) :
    ((ofKind session kind).run events).Wide := by
  have hstart : (ofKind session kind).Wide := by
    rintro v ⟨⟩
    rfl
  exact run_induction (P := Wide) (fun _ event hw => wide_step hw event) hstart events

/-- While the screen keeps its size, all lists on top have the same width. -/
theorem Wide.width_run
    {v w : ListView} {events : List Event}
    (hw : h.Wide)
    (hfirst : h.top = .list v)
    (hlast : (h.run events).top = .list w)
    (hsize : ∀ event ∈ events, ∀ width height, event ≠ .resize width height) :
    w.width = v.width := by
  have hwide : (h.run events).Wide :=
    run_induction (P := Wide) (fun _ event hg => wide_step hg event) hw events
  calc
    w.width = (h.run events).bodySize.1 := hwide w hlast
    _ = h.bodySize.1 := bodyWidth_congr (screenSize_run hsize)
    _ = v.width := (hw v hfirst).symm

end Host
end ClusterNav
