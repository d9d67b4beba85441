import ClusterNav.Proofs.Resizing
import ClusterNav.Proofs.StackChange

/-!
# What a step does to the views

The views of a host stand above each other, from the root up to the top view, and
the roots that were left lie beside them.  A step changes the top view, puts one
view on top or takes one away; at the root it leaves the root or goes back to one;
or it starts all over with one view.  No step touches a view that stays covered.

**Results.**
* `Host.shift_step`: all that a step can do to the views and the roots left.
-/

namespace ClusterNav
namespace Host

variable (h : Host)

/-! ## The tower of views -/

/-- The views from the top down to the root. -/
def tower : List View :=
  h.stack ++ [h.root]

theorem length_tower : h.tower.length = h.depth := by
  rw [tower, List.length_append, List.length_singleton, depth, Nat.add_comm]

theorem tower_eq_cons : h.tower = h.top :: h.tower.tail := by
  unfold tower top
  cases h.stack <;> rfl

theorem tower_of_nil
    (hs : h.stack = []) :
    h.tower = [h.root] := by
  rw [tower, hs, List.nil_append]

theorem tower_of_cons
    {v : View} {rest : List View}
    (hs : h.stack = v :: rest) :
    h.tower = v :: (rest ++ [h.root]) := by
  rw [tower, hs, List.cons_append]

@[simp] theorem tower_withTop (v : View) :
    (h.withTop v).tower = v :: h.tower.tail := by
  rw [withTop_eq, tower, tower]
  cases h.stack <;> rfl

@[simp] theorem tower_resizeTop : h.resizeTop.tower = h.fitted h.top :: h.tower.tail := by
  rw [resizeTop_eq, tower_withTop]

theorem tower_push (next : Destination) :
    (h.push next).tower = (h.push next).fitted (.ofDestination h.session next) :: h.tower := by
  rw [push, tower_resizeTop, fitted_resizeTop]
  rfl

theorem tower_replace (next : Destination) :
    (h.replace next).tower =
      (h.replace next).fitted (.ofDestination h.session next) :: h.tower.tail := by
  rw [replace, tower_resizeTop, fitted_resizeTop, top_withTop, tower_withTop, List.tail_cons]

@[simp] theorem history_withTop (v : View) : (h.withTop v).history = h.history := by
  rw [withTop_eq]

@[simp] theorem scope_withTop (v : View) : (h.withTop v).scope = h.scope := by
  rw [withTop_eq]

@[simp] theorem history_resizeTop : h.resizeTop.history = h.history := by
  rw [resizeTop_eq, history_withTop]

@[simp] theorem scope_resizeTop : h.resizeTop.scope = h.scope := by
  rw [resizeTop_eq, scope_withTop]

/-! ## Closing a view -/

/-- What closing the top view does. -/
inductive Closing : Prop
  /-- The view below comes to light and gets the room. -/
  | reveals
      (v : View) (rest : List View)
      (before : h.tower.tail = v :: rest)
      (tower : h.pop.tower = h.pop.fitted v :: rest)
      (history : h.pop.history = h.history)
  /-- The root left last comes back. -/
  | returns
      (saved : SavedRoot) (rest : List SavedRoot)
      (bottom : h.stack = [])
      (before : h.history = saved :: rest)
      (tower : h.pop.tower = [h.pop.fitted saved.root])
      (history : h.pop.history = rest)
      (scope : h.pop.scope = saved.scope)
  /-- The last root stays. -/
  | stays
      (bottom : h.stack = [])
      (same : h.pop = h)

theorem closing : h.Closing := by
  cases hs : h.stack with
  | cons top rest =>
      have hpop : h.pop = resizeTop { h with stack := rest } := by
        rw [pop, hs]
      have htail : h.tower.tail = tower { h with stack := rest } := by
        rw [h.tower_of_cons hs]
        rfl
      rw [tower_eq_cons { h with stack := rest }] at htail
      refine .reveals _ _ htail ?_ ?_
      · rw [hpop, tower_resizeTop, fitted_resizeTop]
      · rw [hpop, history_resizeTop]
  | nil =>
      cases hh : h.history with
      | cons saved rest =>
          have hpop : h.pop =
              resizeTop { h with scope := saved.scope, root := saved.root, history := rest } := by
            rw [pop, hs, hh]
          refine .returns saved rest hs hh ?_ ?_ ?_
          · rw [hpop, tower_resizeTop, fitted_resizeTop]
            simp [top, tower, hs]
          · rw [hpop, history_resizeTop]
          · rw [hpop, scope_resizeTop]
      | nil =>
          refine .stays hs ?_
          rw [pop, hs, hh]

/-! ## One step -/

/-- What a route can do to the views and to the roots left. -/
inductive Shift (r : Route) : Prop
  /-- Only the top view may change. -/
  | stays
      (v : View)
      (tower : (h.follow r).1.tower = v :: h.tower.tail)
      (history : (h.follow r).1.history = h.history)
  /-- A view is opened above the top view. -/
  | opens
      (new v : View)
      (tower : (h.follow r).1.tower = new :: v :: h.tower.tail)
      (history : (h.follow r).1.history = h.history)
  /-- The top view is closed, and the one below gets the room. -/
  | closes
      (v : View) (rest : List View)
      (before : h.tower.tail = v :: rest)
      (tower : (h.follow r).1.tower = (h.follow r).1.fitted v :: rest)
      (history : (h.follow r).1.history = h.history)
  /-- The root is left for that of a wider scope. -/
  | leaves
      (new : View)
      (bottom : h.stack = [])
      (tower : (h.follow r).1.tower = [new])
      (history : (h.follow r).1.history = ⟨h.scope, h.root⟩ :: h.history)
  /-- The root left last comes back. -/
  | returns
      (saved : SavedRoot) (rest : List SavedRoot)
      (bottom : h.stack = [])
      (before : h.history = saved :: rest)
      (tower : (h.follow r).1.tower = [(h.follow r).1.fitted saved.root])
      (history : (h.follow r).1.history = rest)
      (scope : (h.follow r).1.scope = saved.scope)
  /-- All views but one are given up. -/
  | starts
      (new : View)
      (change : h.change r = .clear)
      (tower : (h.follow r).1.tower = [new])
      (history : (h.follow r).1.history = [])

variable {h}

theorem top_of_tower
    {v : View} {below : List View}
    (htower : h.tower = v :: below) :
    h.top = v ∧ h.tower.tail = below := by
  rw [tower_eq_cons] at htower
  exact List.cons.inj htower

theorem shift_back : h.Shift .back := by
  cases h.closing with
  | reveals v rest before tower history =>
      exact .closes v rest before tower history
  | returns saved rest bottom before tower history scope =>
      exact .returns saved rest bottom before tower history scope
  | stays bottom same =>
      refine .stays h.top ?_ ?_
      · show h.pop.tower = _
        rw [same, tower_eq_cons]
        rfl
      · show h.pop.history = _
        rw [same]

@[simp] theorem tower_answered (event : Event) :
    (h.answered event).tower = (h.answer event).view :: h.tower.tail := by
  rw [answered, tower_withTop]
  rfl

@[simp] theorem history_answered (event : Event) :
    (h.answered event).history = h.history := by
  rw [answered, history_withTop]

theorem stack_answered_eq_nil_iff (event : Event) :
    (h.answered event).stack = [] ↔ h.stack = [] := by
  rw [answered, stack_withTop, List.set_eq_nil_iff]

/-- The top view answers, and then the stack moves as it asks. -/
theorem shift_hand (event : Event) : h.Shift (.hand event) := by
  have hfollow :
      (h.follow (.hand event)).1 = (h.answered event).move (h.answer event).move := by
    rw [follow, deliver_eq]
  cases hmove : (h.answer event).move with
  | stay =>
      rw [hmove] at hfollow
      refine .stays (h.answer event).view ?_ ?_
      · rw [hfollow, move, tower_answered]
      · rw [hfollow, move, history_answered]
  | push next =>
      rw [hmove] at hfollow
      have htower := tower_answered (h := h) event
      rw [move, push] at hfollow
      refine .opens (h.follow (.hand event)).1.top (h.answer event).view ?_ ?_
      · rw [hfollow, tower_resizeTop, top_resizeTop, ← htower]
        rfl
      · rw [hfollow, history_resizeTop]
        exact history_answered event
  | replace next =>
      rw [hmove] at hfollow
      rw [move, replace] at hfollow
      refine .stays (h.follow (.hand event)).1.top ?_ ?_
      · rw [hfollow, tower_resizeTop, top_resizeTop, tower_withTop, tower_answered]
        rfl
      · rw [hfollow, history_resizeTop, history_withTop, history_answered]
  | pop =>
      rw [hmove] at hfollow
      cases (h.answered event).closing with
      | reveals v rest before tower history =>
          rw [tower_answered] at before
          rw [history_answered] at history
          refine .closes v rest before ?_ ?_
          · rw [hfollow]
            exact tower
          · rw [hfollow]
            exact history
      | returns saved rest bottom before tower history scope =>
          rw [stack_answered_eq_nil_iff] at bottom
          rw [history_answered] at before
          refine .returns saved rest bottom before ?_ ?_ ?_
          · rw [hfollow]
            exact tower
          · rw [hfollow]
            exact history
          · rw [hfollow]
            exact scope
      | stays bottom same =>
          refine .stays (h.answer event).view ?_ ?_
          · rw [hfollow, move, same, tower_answered]
          · rw [hfollow, move, same, history_answered]

theorem shift_select (kind : PickerKind) (value : String) :
    h.Shift (.select kind value) := by
  have hfollow : (h.follow (.select kind value)).1 = h.select kind value := by
    rfl
  cases hchanges : changes h.session kind value with
  | true =>
      refine .starts (h.select kind value).top ?_ ?_ ?_
      · rw [change_select, hchanges]
        rfl
      · rw [hfollow, h.select_of_changes hchanges, tower_resizeTop, top_resizeTop]
        rfl
      · rw [hfollow, h.select_of_changes hchanges, history_resizeTop]
  | false =>
      cases hlast : h.history.getLast? with
      | some saved =>
          refine .starts (h.select kind value).top ?_ ?_ ?_
          · have hnonempty : h.history.isEmpty = false := by
              cases hnil : h.history <;> simp [hnil] at hlast ⊢
            rw [change_select, hchanges, hnonempty]
            rfl
          · rw [hfollow, h.select_of_saved hchanges hlast, tower_resizeTop, top_resizeTop]
            rfl
          · rw [hfollow, h.select_of_saved hchanges hlast, history_resizeTop]
      | none =>
          refine .stays (h.select kind value).top ?_ ?_
          · rw [hfollow, h.select_of_unsaved hchanges hlast, tower_resizeTop, top_resizeTop]
            rfl
          · rw [hfollow, h.select_of_unsaved hchanges hlast, history_resizeTop,
              List.getLast?_eq_none_iff.mp hlast]

theorem shift_widen
    (hs : h.stack = []) :
    h.Shift .widen := by
  have hfollow : (h.follow .widen).1 = h.widen := by
    rfl
  cases houtward : h.scope.outward? with
  | none =>
      refine .stays h.top ?_ ?_
      · rw [hfollow, widen, houtward, ← tower_eq_cons]
        rfl
      · rw [hfollow, widen, houtward]
  | some scope =>
      refine .leaves h.widen.top hs ?_ ?_
      · rw [hfollow, widen, houtward, tower_resizeTop, top_resizeTop, tower, hs]
        rfl
      · rw [hfollow, widen, houtward, history_resizeTop]

/-- What a route can do to the views, when the root is left at the root only. -/
theorem shift_follow
    {r : Route}
    (hroot : r = .widen → h.stack = []) :
    h.Shift r := by
  cases r with
  | fit width height =>
      exact .stays _ (tower_resizeTop _) (history_resizeTop _)
  | select kind value =>
      exact shift_select kind value
  | quit =>
      exact .stays h.top h.tower_eq_cons rfl
  | hand event =>
      exact shift_hand event
  | back =>
      exact shift_back
  | widen =>
      exact shift_widen (hroot rfl)
  | goTo kind =>
      exact .starts _ rfl (tower_resizeTop _) (history_resizeTop _)
  | push next =>
      refine .opens (h.push next).top h.top ?_ (history_resizeTop _)
      rw [← tower_eq_cons, follow, push, tower_resizeTop, top_resizeTop]
      rfl

variable (h)

/-- Only at the root is the root left for a wider scope. -/
theorem stack_of_route_eq_widen
    {event : Event}
    (hr : h.route event = .widen) :
    h.stack = [] := by
  cases event with
  | resize width height =>
      cases hr
  | message m =>
      cases m <;> cases hr
  | key k =>
      have hkey := h.keyRoute k
      rw [hr] at hkey
      cases hkey with
      | widen bottom =>
          exact bottom

/-- What a step can do to the views and to the roots left. -/
theorem shift_step (event : Event) : (h.heard event).Shift (h.route event) := by
  apply shift_follow
  intro hr
  cases event <;> exact h.stack_of_route_eq_widen hr

end Host
end ClusterNav
