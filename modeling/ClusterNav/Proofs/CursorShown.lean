import ClusterNav.Proofs.ListPages
import ClusterNav.Proofs.ScopeLists

/-!
# Showing the selected item

A list is fitted so that a page of it fills the room of the top view.  Every step
that changes the room or the top view fits the top view again, but one: to ask for
a wider scope than that of the contexts shows a banner and leaves the list as it is.
The banner takes the row of the last line, and when the page is full and the cursor
stands at its end, this line is that of the selected item.

**Results.**
* `Host.fitting_run`: how the top list fits into its room as long as the screen keeps
  its size.
* `selected_row_shown_iff`: when the frame of a list holds the row of the selected
  item.
* `Host.last_context_hidden`: the runs after which it does not.
-/

namespace ClusterNav
namespace Host

/-! ## The room of the top list -/

/-- The top list was fitted into the room with a banner or into that without one.
Only at the root of the contexts may it be too large for its room. -/
structure Fitting (height : Nat) (h : Host) : Prop where
  height_eq : h.height = height
  room : ∀ v, h.top = .list v → ∃ n, v.Paged n ∧
    (n + 6 = height ∨
      n + 5 = height ∧ (h.notice = "" ∨ h.scope = .contexts ∧ h.stack = []))

/-- What may happen to the top view while the screen keeps its size. -/
inductive Settling (h g : Host) : Prop
  /-- It gets its room. -/
  | fits (height : g.height = h.height) (fitted : g.resizeTop = g)
  /-- It answers an event. -/
  | answers (event : Event) (eq : g = h.answered event)
  | stays (eq : g = h)
  /-- No scope is wider than that of the contexts. -/
  | warns (text : String) (scope : h.scope = .contexts) (bottom : h.stack = [])
      (eq : g = { h with notice := text })

variable {h : Host}

theorem settling_resizeTop
    {g : Host}
    (hheight : g.height = h.height) :
    h.Settling g.resizeTop :=
  .fits (g.height_resizeTop.trans hheight) g.resizeTop_resizeTop

theorem height_answered (event : Event) : (h.answered event).height = h.height := by
  rw [answered, height_withTop]

/-- Closing a view fits the one below it, if there is one. -/
theorem pop_eq_or (h : Host) :
    h.pop = h ∨ ∃ g, g.height = h.height ∧ h.pop = resizeTop g := by
  unfold pop
  split
  · refine Or.inr ⟨_, ?_, rfl⟩
    rfl
  · refine Or.inr ⟨_, ?_, rfl⟩
    rfl
  · exact Or.inl rfl

theorem settling_pop : h.Settling h.pop := by
  rcases h.pop_eq_or with heq | ⟨g, hheight, heq⟩
  · exact .stays heq
  · rw [heq]
    exact settling_resizeTop hheight

theorem settling_push
    {g : Host}
    (hheight : g.height = h.height)
    (next : Destination) :
    h.Settling (g.push next) := by
  apply settling_resizeTop
  exact hheight

theorem settling_goTo (kind : Kind) : h.Settling (h.goTo kind) := by
  apply settling_resizeTop
  rfl

theorem settling_deliver (event : Event) : h.Settling (h.deliver event).1 := by
  have hheight := h.height_answered event
  rw [deliver_eq]
  cases (h.answer event).move with
  | stay =>
      exact .answers event rfl
  | push next =>
      exact settling_push hheight next
  | replace next =>
      exact settling_resizeTop ((height_withTop _ _).trans hheight)
  | pop =>
      rcases (h.answered event).pop_eq_or with heq | ⟨g, hpopped, heq⟩
      · exact .answers event heq
      · show h.Settling (h.answered event).pop
        rw [heq]
        exact settling_resizeTop (hpopped.trans hheight)

theorem settling_widen
    (hs : h.stack = []) :
    h.Settling h.widen := by
  unfold widen
  cases hscope : h.scope.outward? with
  | none =>
      refine .warns _ ?_ hs rfl
      cases hh : h.scope <;> simp [hh, Scope.outward?] at hscope ⊢
  | some scope =>
      exact settling_resizeTop rfl

/-- What a route does to the top view while the screen keeps its size. -/
theorem settling_follow
    {r : Route}
    (hsize : ∀ width height, r ≠ .fit width height)
    (hroot : r = .widen → h.stack = []) :
    h.Settling (h.follow r).1 := by
  cases r with
  | fit width height =>
      exact absurd rfl (hsize width height)
  | select picker value =>
      exact .fits (h.fields_select picker value).2.2.2.2.2.1 (h.resizeTop_select picker value)
  | quit =>
      exact .stays rfl
  | hand event =>
      exact settling_deliver event
  | back =>
      exact settling_pop
  | widen =>
      exact settling_widen (hroot rfl)
  | goTo kind =>
      exact settling_goTo kind
  | push next =>
      exact settling_push rfl next

/-- A view that got its room fits. -/
theorem fitting_of_resizeTop_eq
    {height : Nat}
    (hseven : 7 ≤ height)
    (hpages : PagesInOrder h)
    (hheight : h.height = height)
    (hfitted : h.resizeTop = h) :
    Fitting height h where
  height_eq := hheight
  room := by
    intro v hv
    have hframing := h.framing_eq
    have hroom : h.bodySize.2 = max (height - h.framing) 1 := by
      rw [bodySize_eq, if_neg (by omega), hheight]
    have htop : h.fitted h.top = h.top := by
      rw [← h.top_resizeTop, hfitted]
    obtain ⟨n, hn⟩ := hpages.top v hv
    have hset : v.setSize h.bodySize.1 h.bodySize.2 = v := by
      rw [hv] at htop
      exact View.list.inj htop
    have hpaged := ListView.paged_setSize hn h.bodySize.1 h.bodySize.2
    rw [hset] at hpaged
    refine ⟨_, hpaged, ?_⟩
    by_cases hnotice : h.notice = ""
    · rw [if_pos hnotice] at hframing
      right
      exact ⟨by omega, Or.inl hnotice⟩
    · rw [if_neg hnotice] at hframing
      left
      omega

namespace Fitting

variable {height : Nat}

theorem heard
    (hf : Fitting height h)
    (event : Event) :
    Fitting height (h.heard event) := by
  cases event with
  | key k =>
      refine ⟨hf.height_eq, ?_⟩
      intro v hv
      obtain ⟨n, hn, hroom⟩ := hf.room v hv
      exact ⟨n, hn, hroom.imp_right fun hlarge => ⟨hlarge.1, Or.inl rfl⟩⟩
  | resize width height | message m =>
      exact hf

/-- A list that answers keeps its pages. -/
theorem answered
    (hf : Fitting height h)
    (event : Event) :
    Fitting height (h.answered event) where
  height_eq := (h.height_answered event).trans hf.height_eq
  room := by
    intro w hw
    have hkept :
        (h.answered event).notice = h.notice ∧ (h.answered event).scope = h.scope := by
      rw [Host.answered, notice_withTop, scope_withTop]
      exact ⟨rfl, rfl⟩
    rw [Host.answered, top_withTop, answer] at hw
    rw [hkept.1, hkept.2, stack_answered_eq_nil_iff]
    cases htop : h.top with
    | list v =>
        obtain ⟨n, hn, hroom⟩ := hf.room v htop
        rw [htop] at hw
        obtain rfl := View.list.inj hw
        exact ⟨n, ListView.paged_respond hn _ _, hroom⟩
    | detail v | text v | relations v | pods v | containers v | log v | columns v | scope v
    | browser v | help v =>
        rw [htop] at hw
        cases hw

theorem settle
    (hseven : 7 ≤ height)
    {g : Host}
    (hf : Fitting height h)
    (hpages : PagesInOrder g)
    (hsettling : h.Settling g) :
    Fitting height g := by
  cases hsettling with
  | fits hheight fitted =>
      exact fitting_of_resizeTop_eq hseven hpages (hheight.trans hf.height_eq) fitted
  | answers event eq =>
      rw [eq]
      exact hf.answered event
  | stays eq =>
      rw [eq]
      exact hf
  | warns text scope bottom eq =>
      subst eq
      refine ⟨hf.height_eq, ?_⟩
      intro v hv
      obtain ⟨n, hn, hroom⟩ := hf.room v hv
      exact ⟨n, hn, hroom.imp_right fun hlarge => ⟨hlarge.1, Or.inr ⟨scope, bottom⟩⟩⟩

theorem step
    (hseven : 7 ≤ height)
    (hf : Fitting height h)
    (hpages : PagesInOrder h)
    {event : Event}
    (hsize : ∀ width height, event ≠ .resize width height) :
    Fitting height (h.step event).1 := by
  have hstep := hpages.step event
  rw [step_eq_follow] at hstep ⊢
  apply (hf.heard event).settle hseven hstep
  apply settling_follow
  · intro w n hroute
    exact hsize w n (h.eq_resize_of_route_eq_fit hroute)
  · intro hroute
    cases event <;> exact h.stack_of_route_eq_widen hroute

theorem run
    (hseven : 7 ≤ height)
    (hf : Fitting height h)
    (hpages : PagesInOrder h)
    {events : List Event}
    (hsize : ∀ event ∈ events, ∀ width height, event ≠ .resize width height) :
    Fitting height (h.run events) := by
  induction events generalizing h with
  | nil =>
      exact hf
  | cons event rest ih =>
      have hfirst := hf.step hseven hpages (hsize event List.mem_cons_self)
      apply ih hfirst (hpages.step event)
      intro later hlater
      exact hsize later (List.mem_cons_of_mem _ hlater)

end Fitting

/-- The top list after a run whose last change of size was to `height` rows. -/
theorem fitting_run
    {height : Nat}
    (hseven : 7 ≤ height)
    (session : Session) (kind : Kind) (past : List Event) (width : Nat) (more : List Event)
    (hsize : ∀ event ∈ more, ∀ width height, event ≠ .resize width height) :
    Fitting height ((ofKind session kind).run (past ++ .resize width height :: more)) := by
  have hpast := pagesInOrder_run session kind past
  have hresized := hpast.step (.resize width height)
  rw [run_append]
  apply Fitting.run hseven _ hresized hsize
  apply fitting_of_resizeTop_eq hseven hresized
  · exact height_resizeTop _
  · exact resizeTop_resizeTop _

/-! ## The row of the selected item -/

/-- Has the frame less room than the heading of a list and a page of it take? -/
def Cuts (h : Host) (v : ListView) : Prop :=
  h.bodyRows < v.list.paginator.perPage + 1

namespace Fitting

variable {height : Nat} {v : ListView}

/-- The page of the top list, and the room for it. -/
theorem page
    (hf : Fitting height h)
    (htop : h.top = .list v) :
    v.Paged v.list.paginator.perPage ∧
    (v.list.paginator.perPage + 5 = height ∨ v.list.paginator.perPage + 6 = height) ∧
    (h.Cuts v → h.scope = .contexts ∧ h.stack = []) := by
  obtain ⟨n, hn, hroom⟩ := hf.room v htop
  have hframing := h.framing_eq
  have hheight := hf.height_eq
  obtain rfl : v.list.paginator.perPage = n := hn.perPage_eq
  refine ⟨hn, ?_, ?_⟩
  · rcases hroom with hsmall | ⟨hlarge, -⟩
    · exact Or.inr hsmall
    · exact Or.inl hlarge
  · intro hcuts
    unfold Cuts bodyRows at hcuts
    rcases hroom with hsmall | ⟨hlarge, hnotice | hcontexts⟩
    · split at hframing <;> omega
    · rw [if_pos hnotice] at hframing
      omega
    · exact hcontexts

/-- The room is too small when a banner is shown over a list that was fitted into the
room without one. -/
theorem cuts_iff
    (hf : Fitting height h)
    (htop : h.top = .list v) :
    h.Cuts v ↔ h.notice ≠ "" ∧ v.list.paginator.perPage + 5 = height := by
  obtain ⟨hpaged, hsized, -⟩ := hf.page htop
  have hframing := h.framing_eq
  have hheight := hf.height_eq
  have hpos := hpaged.pos
  unfold Cuts bodyRows
  by_cases hnotice : h.notice = ""
  · rw [if_pos hnotice] at hframing
    simp only [hnotice, ne_eq, not_true_eq_false, false_and, iff_false]
    omega
  · rw [if_neg hnotice] at hframing
    simp only [ne_eq, hnotice, not_false_eq_true, true_and]
    omega

/-- At most one row is missing. -/
theorem perPage_le_bodyRows
    (hf : Fitting height h)
    (htop : h.top = .list v) :
    v.list.paginator.perPage ≤ h.bodyRows := by
  obtain ⟨-, hsized, -⟩ := hf.page htop
  have hframing := h.framing_eq
  have hheight := hf.height_eq
  unfold bodyRows
  split at hframing <;> omega

/-- The row of the selected item is missing only at the end of a full page. -/
theorem showsSelected_iff
    (hf : Fitting height h)
    (htop : h.top = .list v)
    (hvisible : v.list.visible ≠ []) :
    h.ShowsSelected ↔
      ¬ (h.Cuts v ∧
        v.list.cursor % v.list.paginator.perPage + 1 = v.list.paginator.perPage) := by
  obtain ⟨hpaged, -, -⟩ := hf.page htop
  have hrows := hf.perPage_le_bodyRows htop
  have hpos := hpaged.pos
  have hmod : v.list.cursor % v.list.paginator.perPage < v.list.paginator.perPage :=
    Nat.mod_lt _ hpos
  rw [cursorRow_mem_frame_iff htop hpaged hvisible (by omega), Cuts]
  omega

end Fitting
end Host

/-- After any run, let the size of the screen have changed last to seven rows or more,
and let the top view be a list.  A page of the list was made for the room with a
banner or for that without one.  The frame has less room than the list was made for
exactly when a banner has come since, and this happens at the root of the contexts
alone.  The frame holds the row of the selected item, unless it is the last row of a
full page in a room that is too small. -/
theorem selected_row_shown_iff
    (session : Session) (kind : Kind) (past more : List Event) (width height : Nat)
    (hseven : 7 ≤ height)
    (hlatest : ∀ event ∈ more, ∀ width height, event ≠ .resize width height) :
    let h := (Host.ofKind session kind).run (past ++ .resize width height :: more)
    ∀ v, h.top = .list v →
      let page := v.list.paginator.perPage
      h.frame =
        Frame.stack [h.scopeLine, h.crumbLine] h.banner?
          (Frame.resized v.body h.bodyRows) v.footer ∧
      (page + 5 = height ∨ page + 6 = height) ∧
      (h.Cuts v ↔ h.notice ≠ "" ∧ page + 5 = height) ∧
      (h.Cuts v → h.scope = .contexts ∧ h.stack = []) ∧
      (v.list.visible ≠ [] →
        (h.ShowsSelected ↔ ¬ (h.Cuts v ∧ v.list.cursor % page + 1 = page))) := by
  intro h v htop page
  have hf : Host.Fitting height h := Host.fitting_run hseven session kind past width more hlatest
  obtain ⟨hpaged, hsized, hcontexts⟩ := hf.page htop
  have hrows := hf.perPage_le_bodyRows htop
  have hpos := hpaged.pos
  refine ⟨?_, hsized, hf.cuts_iff htop, hcontexts, hf.showsSelected_iff htop⟩
  have hframe := Host.frame_eq_stack (h := h) (by omega)
  rw [htop] at hframe
  exact hframe

/-- Of seven rows, the only stateful set has one; help is opened over it and closed. -/
theorem selected_row_shown_redis :
    let h := (Host.ofKind (.ofRegistry .standard .empty) .statefulSet).run
      ([] ++ .resize 100 7 :: [.key ⟨"?"⟩, .key ⟨"esc"⟩])
    ∃ v, h.top = .list v ∧ v.list.visible ≠ [] ∧ h.ShowsSelected := by
  intro h
  have hstack : h.stack = [] := by
    decide +kernel
  have hnotice : h.notice = "" := by
    decide +kernel
  have hi : ScopesInStep h := (ScopesInStep.ofKind _ _).run _
  obtain ⟨v, htop, -⟩ := hi.top hstack
  have hselected : h.top.selection?.isSome = true := by
    decide +kernel
  have hvisible : v.list.visible ≠ [] := by
    intro hempty
    rw [htop] at hselected
    simp [View.selection?, ListView.selection?, ListView.selected?,
      Select.FilterList.selectedIndex?, hempty] at hselected
  obtain ⟨-, -, hcuts, -, hshown⟩ := selected_row_shown_iff (.ofRegistry .standard .empty)
    .statefulSet [] [.key ⟨"?"⟩, .key ⟨"esc"⟩] 100 7 (by decide) (by simp) v htop
  refine ⟨v, htop, hvisible, (hshown hvisible).mpr ?_⟩
  rintro ⟨hcut, -⟩
  exact (hcuts.mp hcut).1 hnotice

namespace Host

/-- The user goes to the last context and asks for a wider scope. -/
def toLastContext : List Event :=
  [.key ⟨"left"⟩, .key ⟨"left"⟩, .key ⟨"end"⟩, .key ⟨"left"⟩]

/-- When the contexts fill a page, the banner hides the last of them. -/
theorem last_context_hidden
    (session : Session) (kind : Kind) (width height : Nat)
    (hseven : 7 ≤ height)
    (hfull : (session.registry.contextKind.items session.ns).length + 5 = height) :
    ¬ ((ofKind session kind).run ([] ++ .resize width height :: toLastContext)).ShowsSelected := by
  let start : Host := ((ofKind session kind).step (.resize width height)).1
  let namespaces : Host := (start.step (.key ⟨"left"⟩)).1
  let fresh : ListView := .ofScope session .contexts
  let last : Host := ((namespaces.step (.key ⟨"left"⟩)).1.step (.key ⟨"end"⟩)).1
  let chosen : ListView :=
    (fresh.setSize namespaces.width (height - 4)).atEnd.refreshColumns session.columns
  have hkeys := ListView.takesAllKeys_setSize_ofScope session
  have hstart : Rests session height .resources
      ((ListView.ofKind session kind).setSize width (height - 4)) start :=
    Rests.of_resizeTop (g := { ofKind session kind with width := width, height := height })
      rfl rfl hseven rfl rfl rfl rfl
  have hnamespaces := hstart.left hseven rfl .namespaces rfl rfl
  have hcontexts := hnamespaces.left hseven (hkeys _ _ _) .contexts rfl rfl
  have hlast : Rests session height .contexts chosen last :=
    hcontexts.last (hkeys _ _ _) nofun
  obtain ⟨htop, hnotice⟩ := hlast.warned (hkeys .contexts namespaces.width (height - 4))
  have hfitting : Fitting height (last.step (.key ⟨"left"⟩)).1 :=
    fitting_run hseven session kind [] width toLastContext (by simp [toLastContext])
  have hrows : fresh.list.visible.length + 5 = height := by
    rw [ListView.length_visible_ofScope, ← hfull]
    exact congrArg (· + 5) (List.length_mergeSort _)
  obtain ⟨hvisible, hperPage, hcursor⟩ :=
    fresh.atEnd_setSize namespaces.width (height - 4) session.columns
  have hnonempty : chosen.list.visible ≠ [] := by
    rw [hvisible, ← List.length_pos_iff]
    omega
  have hpage : chosen.list.paginator.perPage = fresh.list.visible.length := by
    rw [hperPage]
    omega
  have hend : chosen.list.cursor = fresh.list.visible.length - 1 := by
    rw [hcursor]
    omega
  have hcuts : (last.step (.key ⟨"left"⟩)).1.Cuts chosen := by
    rw [hfitting.cuts_iff htop, hpage]
    exact ⟨hnotice, hrows⟩
  intro hshows
  apply (hfitting.showsSelected_iff htop hnonempty).mp hshows
  rw [hend, hpage, Nat.mod_eq_of_lt (by omega)]
  exact ⟨hcuts, by omega⟩

end Host

/-- The last of three contexts is selected, and a wider scope is asked for. -/
theorem selected_row_hidden :
    ¬ ∀ (session : Session) (kind : Kind) (past more : List Event) (width height : Nat),
      7 ≤ height →
      (∀ event ∈ more, ∀ width height, event ≠ .resize width height) →
      ((Host.ofKind session kind).run (past ++ .resize width height :: more)).ShowsSelected := by
  intro hshown
  apply Host.last_context_hidden (.ofRegistry .standard .empty) .workload 100 8 (by decide) rfl
  apply hshown
  · decide
  · simp [Host.toLastContext]

end ClusterNav
