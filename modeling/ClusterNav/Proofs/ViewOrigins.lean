import ClusterNav.Proofs.SessionChange

/-!
# Where views come from

All views of a host lie on one stack: the views above the root, the root, and the roots
that were left for it.  A view keeps its place, which the views below it tell, until it
is taken away.  A view of the next state was at its place before, and at most got
another size there; or it is the top view, which has answered; or it is new.

**Results.**
* `Host.views_pop`: closing the top view takes it from the stack of all views.
* `Host.origin_step`: where each view of the next state comes from.
-/

namespace ClusterNav
namespace Host

variable (h : Host)

/-! ## One stack for all views -/

theorem length_views : h.views.length = h.depth + h.history.length := by
  rw [views, depth, List.length_append, List.length_cons, List.length_map]
  omega

theorem top_mem_views : h.top ∈ h.views := by
  rw [views_eq_cons]
  exact List.mem_cons_self

@[simp] theorem views_heard (event : Event) : (h.heard event).views = h.views := by
  cases event <;> rfl

@[simp] theorem below_heard (event : Event) : (h.heard event).below = h.below := by
  cases event <;> rfl

@[simp] theorem answer_heard (event e : Event) : (h.heard event).answer e = h.answer e := by
  cases event <;> rfl

@[simp] theorem sessionAfter_heard (event e : Event) :
    (h.heard event).sessionAfter e = h.sessionAfter e := by
  cases event <;> rfl

variable {h} in
/-- A step that hands an event on is the answer of the top view and the move it asks for. -/
theorem step_hand
    {event e : Event}
    (hroute : h.route event = .hand e) :
    h.step event =
      (((h.heard event).answered e).move (h.answer e).move, (h.answer e).effect) := by
  rw [step_eq_follow, hroute, follow, deliver_eq, answer_heard]

theorem views_resizeTop : h.resizeTop.views = h.fitted h.top :: h.below := by
  rw [resizeTop_eq, views_withTop]

theorem views_answered (event : Event) :
    (h.answered event).views = (h.answer event).view :: h.below := by
  rw [answered, views_withTop]
  rfl

theorem below_answered (event : Event) : (h.answered event).below = h.below := by
  rw [answered, below_withTop]
  rfl

theorem views_push (next : Destination) :
    (h.push next).views = (h.push next).fitted (.ofDestination h.session next) :: h.views := by
  rw [push, views_resizeTop, fitted_resizeTop]
  rfl

theorem views_replace (next : Destination) :
    (h.replace next).views = (h.replace next).fitted (.ofDestination h.session next) :: h.below := by
  rw [replace, views_resizeTop, fitted_resizeTop, top_withTop, below_withTop]

/-- A view that is closed shows the one below, whether this one is on the stack or a
root that was left; the last view stays. -/
theorem views_pop :
    (∃ v rest, h.below = v :: rest ∧ h.pop.views = h.pop.fitted v :: rest) ∨
    (h.below = [] ∧ h.pop = h) := by
  cases hs : h.stack with
  | cons top rest =>
      left
      have hbelow : h.below = views { h with stack := rest } := by
        rw [below, views, hs]
        rfl
      have hpop : h.pop = resizeTop { h with stack := rest } := by
        rw [pop, hs]
      refine ⟨_, _, hbelow.trans (views_eq_cons _), ?_⟩
      rw [hpop, views_resizeTop, fitted_resizeTop]
  | nil =>
      cases hh : h.history with
      | cons saved rest =>
          left
          have hbelow : h.below = saved.root :: rest.map (·.root) := by
            rw [below, views, hs, hh]
            rfl
          have hpop : h.pop =
              resizeTop { h with scope := saved.scope, root := saved.root, history := rest } := by
            rw [pop, hs, hh]
          refine ⟨_, _, hbelow, ?_⟩
          rw [hpop, views_resizeTop, fitted_resizeTop]
          simp [below, views, top, hs]
      | nil =>
          right
          refine ⟨?_, ?_⟩
          · rw [below, views, hs, hh]
            rfl
          · rw [pop, hs, hh]

/-- The root of a wider scope lies on all views. -/
theorem views_widen
    (hs : h.stack = [])
    {scope : Scope}
    (houtward : h.scope.outward? = some scope) :
    h.widen.views = h.widen.fitted (rootOf h.session h.rootKind scope) :: h.views := by
  rw [widen, houtward, views_resizeTop, fitted_resizeTop]
  simp [below, views, top, hs]

/-- The list of a kind is then the only view. -/
theorem views_goTo (kind : Kind) :
    (h.goTo kind).views = [(h.goTo kind).fitted (rootOf h.session kind .resources)] := by
  rw [goTo, views_resizeTop, fitted_resizeTop]
  rfl

/-- A root with nothing above it, and no root left, is the only view. -/
theorem views_of_alone
    (hs : h.stack = [])
    (hhistory : h.history = []) :
    h.views = [h.root] := by
  rw [views, hs, hhistory]
  rfl

/-! ## The origin of a view -/

/-- Where a view that lies on some others after a route comes from. -/
inductive Origin (r : Route) (v : View) (below : List View) : Prop
  /-- The view was at this place and has not answered. -/
  | waits (u : View)
      (place : u :: below <:+ h.views)
      (same : v = u ∨ v = (h.follow r).1.fitted u)
      (ns : (h.follow r).1.session.ns = h.session.ns)
      (idle : ∀ e, r = .hand e → u :: below <:+ h.below)
  /-- The view was on top and has answered. -/
  | answers (e : Event)
      (route : r = .hand e)
      (view : v = (h.answer e).view)
      (place : below = h.below)
  | opens (next : Destination)
      (view : v =
        (h.follow r).1.fitted (.ofDestination (h.follow r).1.session next))
  | starts (kind : Kind) (scope : Scope)
      (view : v =
        (h.follow r).1.fitted (rootOf (h.follow r).1.session kind scope))

/-- Each of the views that lie on each other after a route has an origin. -/
def Origins (r : Route) (views : List View) : Prop :=
  ∀ v below, v :: below <:+ views → h.Origin r v below

variable {h} {r : Route}

theorem Origins.nil : h.Origins r [] := by
  intro v below hplace
  cases List.suffix_nil.mp hplace

theorem Origins.cons
    {v : View} {below : List View}
    (hv : h.Origin r v below)
    (hbelow : h.Origins r below) :
    h.Origins r (v :: below) := by
  intro u rest hplace
  rcases List.suffix_cons_iff.mp hplace with heq | hplace
  · cases heq
    exact hv
  · exact hbelow u rest hplace

/-- Views that have not been touched wait. -/
theorem origins_of_suffix
    {views : List View}
    (hviews : views <:+ h.views)
    (hns : (h.follow r).1.session.ns = h.session.ns)
    (hidle : ∀ e, r = .hand e → views <:+ h.below) :
    h.Origins r views := by
  intro v below hplace
  exact .waits v (hplace.trans hviews) (.inl rfl) hns fun e he => hplace.trans (hidle e he)

theorem below_suffix (h : Host) : h.below <:+ h.views :=
  h.views.tail_suffix

/-- The covered views wait, whoever is on top. -/
theorem origins_below
    (hns : (h.follow r).1.session.ns = h.session.ns) :
    h.Origins r h.below :=
  origins_of_suffix h.below_suffix hns fun _ _ => List.suffix_rfl

/-- At most the top view is fitted, and no view answers. -/
theorem origins_of_kept
    {v : View}
    (hviews : (h.follow r).1.views = v :: h.below)
    (hsame : v = h.top ∨ v = (h.follow r).1.fitted h.top)
    (hns : (h.follow r).1.session.ns = h.session.ns)
    (hidle : ∀ e, r ≠ .hand e) :
    h.Origins r (h.follow r).1.views := by
  rw [hviews]
  have hplace : h.top :: h.below <:+ h.views := ⟨[], h.views_eq_cons.symm⟩
  exact .cons (.waits h.top hplace hsame hns fun e he => absurd he (hidle e)) (origins_below hns)

/-- The view below the top view comes to light. -/
theorem origins_of_revealed
    {v : View} {rest : List View}
    (hbelow : h.below = v :: rest)
    (hviews : (h.follow r).1.views = (h.follow r).1.fitted v :: rest)
    (hns : (h.follow r).1.session.ns = h.session.ns) :
    h.Origins r (h.follow r).1.views := by
  have hplace : v :: rest <:+ h.below := ⟨[], hbelow.symm⟩
  have hrest : rest <:+ h.below := (List.suffix_cons v rest).trans hplace
  rw [hviews]
  refine .cons (.waits v (hplace.trans h.below_suffix) (.inr rfl) hns fun _ _ => hplace) ?_
  exact origins_of_suffix (hrest.trans h.below_suffix) hns fun _ _ => hrest

/-- A view is opened above views that have an origin. -/
theorem origins_of_opened
    (next : Destination) {views : List View}
    (hviews : (h.follow r).1.views =
      (h.follow r).1.fitted (.ofDestination (h.follow r).1.session next) :: views)
    (horigins : h.Origins r views) :
    h.Origins r (h.follow r).1.views := by
  rw [hviews]
  exact .cons (.opens next rfl) horigins

/-- A view of a route is all that is left. -/
theorem origins_of_started
    (kind : Kind) (scope : Scope)
    (hviews : (h.follow r).1.views =
      [(h.follow r).1.fitted (rootOf (h.follow r).1.session kind scope)]) :
    h.Origins r (h.follow r).1.views := by
  rw [hviews]
  exact .cons (.starts kind scope rfl) .nil

theorem origins_back : h.Origins .back (h.follow .back).1.views := by
  have hns : (h.follow .back).1.session.ns = h.session.ns :=
    congrArg Session.ns h.session_pop
  rcases h.views_pop with ⟨v, rest, hbelow, hviews⟩ | ⟨-, hpop⟩
  · exact origins_of_revealed hbelow hviews hns
  · refine origins_of_kept (v := h.top) ?_ (.inl rfl) hns (by simp)
    rw [← views_eq_cons]
    exact congrArg views hpop

theorem origins_hand (event : Event) :
    h.Origins (.hand event) (h.follow (.hand event)).1.views := by
  have hfollow : (h.follow (.hand event)).1 = (h.answered event).move (h.answer event).move := by
    rw [follow, deliver_eq]
  have hsession : (h.follow (.hand event)).1.session = (h.answered event).session := by
    rw [hfollow, session_move]
  have hns : (h.follow (.hand event)).1.session.ns = h.session.ns := by
    rw [hsession, answered, session_withTop]
    rfl
  have hanswered : h.Origins (.hand event) (h.answered event).views := by
    rw [views_answered]
    exact .cons (.answers event rfl rfl rfl) (origins_below hns)
  cases hmove : (h.answer event).move with
  | stay =>
      rw [hmove] at hfollow
      rw [hfollow]
      exact hanswered
  | push next =>
      rw [hmove] at hfollow
      refine origins_of_opened next ?_ hanswered
      rw [hsession, hfollow]
      exact views_push _ next
  | replace next =>
      rw [hmove] at hfollow
      refine origins_of_opened next ?_ (origins_below hns)
      rw [hsession, hfollow, ← h.below_answered event]
      exact views_replace _ next
  | pop =>
      rw [hmove] at hfollow
      rcases (h.answered event).views_pop with ⟨v, rest, hbelow, hviews⟩ | ⟨-, hpop⟩
      · rw [below_answered] at hbelow
        refine origins_of_revealed hbelow ?_ hns
        rw [hfollow]
        exact hviews
      · rw [hfollow, move, hpop]
        exact hanswered

theorem origins_select (picker : PickerKind) (value : String) :
    h.Origins (.select picker value) (h.follow (.select picker value)).1.views := by
  have hfollow : (h.follow (.select picker value)).1 = h.select picker value := by
    rfl
  cases hchanges : changes h.session picker value with
  | true =>
      apply origins_of_started h.rootKind .resources
      rw [hfollow, h.select_of_changes hchanges, views_resizeTop, fitted_resizeTop,
        session_resizeTop]
      rfl
  | false =>
      have hsession : selectedSession h.session picker value = h.session :=
        (changes_eq_false_iff _ _ _).mp hchanges
      have hns : (h.follow (.select picker value)).1.session.ns = h.session.ns := by
        rw [hfollow, (h.fields_select picker value).1, hsession]
      cases hlast : h.history.getLast? with
      | none =>
          refine origins_of_kept (v := (h.select picker value).fitted h.top) ?_ (.inr rfl) hns
            (by simp)
          rw [hfollow, h.select_of_unsaved hchanges hlast, views_resizeTop, fitted_resizeTop,
            below, views, below, views, List.getLast?_eq_none_iff.mp hlast]
          rfl
      | some saved =>
          -- The first root left is the lowest view of all.
          obtain ⟨later, hhistory⟩ := List.getLast?_eq_some_iff.mp hlast
          have hplace : [saved.root] <:+ h.views := by
            refine ⟨h.stack ++ h.root :: later.map (·.root), ?_⟩
            rw [views, hhistory]
            simp
          have hviews : (h.follow (.select picker value)).1.views =
              [(h.follow (.select picker value)).1.fitted saved.root] := by
            rw [hfollow, h.select_of_saved hchanges hlast, views_resizeTop, fitted_resizeTop]
            rfl
          rw [hviews]
          exact .cons (.waits saved.root hplace (.inr rfl) hns (by simp)) .nil

theorem origins_widen
    (hs : h.stack = []) :
    h.Origins .widen (h.follow .widen).1.views := by
  have hns : (h.follow .widen).1.session.ns = h.session.ns :=
    congrArg Session.ns h.session_widen
  have hfollow : (h.follow .widen).1 = h.widen := by
    rfl
  cases houtward : h.scope.outward? with
  | none =>
      refine origins_of_kept (v := h.top) ?_ (.inl rfl) hns (by simp)
      rw [hfollow, widen, houtward, ← views_eq_cons]
      rfl
  | some scope =>
      rw [hfollow, h.views_widen hs houtward, ← hfollow]
      refine .cons (.starts h.rootKind scope ?_) (origins_of_suffix List.suffix_rfl hns (by simp))
      rw [hfollow, session_widen]

theorem origins_follow
    (hroot : r = .widen → h.stack = []) :
    h.Origins r (h.follow r).1.views := by
  cases r with
  | fit width height =>
      refine origins_of_kept (v := (h.follow (.fit width height)).1.fitted h.top) ?_ (.inr rfl) ?_
        (by simp)
      · rw [follow, views_resizeTop, fitted_resizeTop]
        rfl
      · rw [follow, session_resizeTop]
  | select picker value =>
      exact origins_select picker value
  | quit =>
      exact origins_of_kept (v := h.top) h.views_eq_cons (.inl rfl) rfl (by simp)
  | hand event =>
      exact origins_hand event
  | back =>
      exact origins_back
  | widen =>
      exact origins_widen (hroot rfl)
  | goTo kind =>
      apply origins_of_started kind .resources
      rw [follow, views_goTo, goTo, session_resizeTop]
  | push next =>
      refine origins_of_opened next (?_ : _ = _ :: h.views)
        (origins_of_suffix List.suffix_rfl ?_ (by simp))
      · rw [follow, views_push, push, session_resizeTop]
      · rw [follow, push, session_resizeTop]

variable (h)

/-- Where each view of the next state comes from. -/
theorem origin_step
    {event : Event} {v : View} {below : List View}
    (hplace : v :: below <:+ (h.step event).1.views) :
    (h.heard event).Origin (h.route event) v below := by
  rw [step_eq_follow] at hplace
  refine origins_follow ?_ v below hplace
  intro hr
  cases event <;> exact h.stack_of_route_eq_widen hr

end Host
end ClusterNav
