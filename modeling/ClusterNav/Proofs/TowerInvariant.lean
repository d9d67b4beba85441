import ClusterNav.Proofs.SessionChange

/-!
# What holds of every view

A view comes from the host, as the root of a scope or after a global key, or from
the view that it is going to stand on.  From then on only the view itself changes,
when it answers an event or gets a size, while the view below it stays covered.
What all of this keeps of a view and the view right below it therefore holds of all
views, in every state of a host.

**Results.**
* `Kept`: what is to be shown of a property of views, sort of view by sort of view.
* `Host.Holds.step`: a step keeps such a property for all views.
* `Host.holds_run`: it holds after every run.
-/

namespace ClusterNav

/-- Each view of a tower, and the view right below it, have a property. -/
def Standing (P : View → Option View → Prop) : List View → Prop
  | [] => True
  | v :: below => P v below.head? ∧ Standing P below

/-- A property that does not look below is one of all views. -/
theorem standing_iff_forall (P : View → Prop) (tower : List View) :
    Standing (fun v _ => P v) tower ↔ ∀ v ∈ tower, P v := by
  induction tower with
  | nil =>
      simp [Standing]
  | cons v below ih =>
      simp [Standing, ih]

/-- A property of a view and the view right below it is kept by all that happens to
views, while the session has the given kinds and the kinds of roots have a property of
their own. -/
structure Kept (r : Registry) (roots : Kind → Prop) (P : View → Option View → Prop) : Prop where
  /-- The kind of a hotkey becomes the kind of the root. -/
  hotkey {c : Char} {kind : Kind} (hhotkey : r.byHotkey? c = some kind) : roots kind
  /-- Nothing is below the root of a scope. -/
  root {session : Session} {kind : Kind} (hr : session.registry = r) (hkind : roots kind)
    (scope : Scope) : P (Host.rootOf session kind scope) none
  fits {v : View} {below : Option View} (hv : P v below) (width height : Nat) :
    P (v.setSize width height) below
  answers {session : Session} {v : View} {below : Option View} (hr : session.registry = r)
    (hv : P v below) (event : Event) : P (v.respond session event).view below
  /-- What a view opens stands on the view as it has answered. -/
  opens {session : Session} {v : View} {below : Option View} {event : Event}
    {next : Destination} (hr : session.registry = r) (hv : P v below)
    (hmove : (v.respond session event).move = .push next) :
    P (.ofDestination session next) (some (v.respond session event).view)
  replaces {session : Session} {v : View} {below : Option View} {event : Event}
    {next : Destination} (hr : session.registry = r) (hv : P v below)
    (hmove : (v.respond session event).move = .replace next) :
    P (.ofDestination session next) below
  /-- A global key opens its view on any other. -/
  reaches {session : Session} {c : Char} {next : Destination} (hr : session.registry = r)
    (htarget : Host.globalTarget? c = some next) (v : View) :
    P (.ofDestination session next) (some v)

/-! ## Where global keys lead -/

/-- Does a route lead to another view without an answer of the top view? -/
def Route.isJump : Route → Bool
  | .goTo _ | .push _ => true
  | .fit _ _ | .select _ _ | .quit | .hand _ | .back | .widen => false

namespace Host

theorem runeRoute_of_globalRoute
    {h : Host} {k : Key} {r : Route}
    (hroute : h.globalRoute k = r)
    (hjump : r.isJump = true) :
    ∃ c, h.runeRoute? c = some r := by
  unfold globalRoute at hroute
  split at hroute
  · subst hroute
    cases hjump
  split at hroute
  · subst hroute
    cases hjump
  split at hroute
  · split at hroute <;> subst hroute <;> cases hjump
  cases hrune : k.rune?.bind h.runeRoute? with
  | none =>
      rw [hrune] at hroute
      subst hroute
      cases hjump
  | some other =>
      rw [hrune] at hroute
      obtain ⟨c, -, hc⟩ := Option.bind_eq_some_iff.mp hrune
      exact ⟨c, by rw [hc]; exact congrArg some hroute⟩

/-- Only a key that is a character leads to another view by itself. -/
theorem runeRoute_of_route
    {h : Host} {event : Event} {r : Route}
    (hroute : h.route event = r)
    (hjump : r.isJump = true) :
    ∃ c, h.runeRoute? c = some r := by
  cases event with
  | resize width height =>
      subst hroute
      cases hjump
  | message m =>
      cases m <;> subst hroute <;> cases hjump
  | key k =>
      change (if h.top.takesAllKeys then .hand (.key k) else h.globalRoute k) = r at hroute
      split at hroute
      · subst hroute
        cases hjump
      · exact runeRoute_of_globalRoute hroute hjump

theorem hotkey_of_route
    {h : Host} {event : Event} {kind : Kind}
    (hroute : h.route event = .goTo kind) :
    ∃ c, h.session.registry.byHotkey? c = some kind := by
  obtain ⟨c, hc⟩ := runeRoute_of_route hroute rfl
  refine ⟨c, ?_⟩
  unfold runeRoute? at hc
  cases hkind : h.session.registry.byHotkey? c with
  | none =>
      simp [hkind] at hc
  | some other =>
      simpa [hkind] using hc

theorem target_of_route
    {h : Host} {event : Event} {next : Destination}
    (hroute : h.route event = .push next) :
    ∃ c, globalTarget? c = some next := by
  obtain ⟨c, hc⟩ := runeRoute_of_route hroute rfl
  refine ⟨c, ?_⟩
  unfold runeRoute? at hc
  cases hkind : h.session.registry.byHotkey? c with
  | none =>
      simpa [hkind] using hc
  | some other =>
      simp [hkind] at hc

/-! ## All views of a host -/

/-- A property holds of all views of a host, the roots that were left included. -/
structure Holds
    (r : Registry) (roots : Kind → Prop) (P : View → Option View → Prop) (h : Host) : Prop where
  registry : h.session.registry = r
  rootKind : roots h.rootKind
  tower : Standing P h.tower
  history : ∀ saved ∈ h.history, P saved.root none

namespace Holds

variable {r : Registry} {roots : Kind → Prop} {P : View → Option View → Prop} {h : Host}

theorem top
    (hi : h.Holds r roots P) :
    P h.top h.tower.tail.head? := by
  have htower := hi.tower
  rw [tower_eq_cons] at htower
  exact htower.1

theorem covered
    (hi : h.Holds r roots P) :
    Standing P h.tower.tail := by
  have htower := hi.tower
  rw [tower_eq_cons] at htower
  exact htower.2

/-- Another view on top, with the property as well. -/
theorem withTop
    (hi : h.Holds r roots P)
    {v : View}
    (hv : P v h.tower.tail.head?) :
    (h.withTop v).Holds r roots P where
  registry := by
    rw [session_withTop]
    exact hi.registry
  rootKind := by
    rw [withTop_eq]
    exact hi.rootKind
  tower := by
    rw [tower_withTop]
    exact ⟨hv, hi.covered⟩
  history := by
    rw [history_withTop]
    exact hi.history

/-- A root alone. -/
theorem of_root
    {g : Host}
    (hr : g.session.registry = r)
    (hkind : roots g.rootKind)
    (hs : g.stack = [])
    (hroot : P g.root none)
    (hhistory : ∀ saved ∈ g.history, P saved.root none) :
    g.Holds r roots P where
  registry := hr
  rootKind := hkind
  tower := by
    rw [g.tower_of_nil hs]
    exact ⟨hroot, trivial⟩
  history := hhistory

theorem root
    (hi : h.Holds r roots P)
    (hs : h.stack = []) :
    P h.root none := by
  have htop := hi.top
  rw [h.top_of_nil hs, h.tower_of_nil hs] at htop
  exact htop

theorem heard
    (hi : h.Holds r roots P)
    (event : Event) :
    (h.heard event).Holds r roots P := by
  cases event <;> exact ⟨hi.registry, hi.rootKind, hi.tower, hi.history⟩

variable (hkept : Kept r roots P)
include hkept

theorem resizeTop
    (hi : h.Holds r roots P) :
    h.resizeTop.Holds r roots P :=
  hi.withTop (hkept.fits hi.top _ _)

theorem pop
    (hi : h.Holds r roots P) :
    h.pop.Holds r roots P := by
  unfold Host.pop
  split
  · rename_i v rest hs
    apply resizeTop hkept
    refine ⟨hi.registry, hi.rootKind, ?_, hi.history⟩
    have hcovered := hi.covered
    rw [h.tower_of_cons hs] at hcovered
    exact hcovered
  · rename_i saved rest hs hhistory
    have hsaved := hi.history
    rw [hhistory] at hsaved
    apply resizeTop hkept
    refine of_root hi.registry hi.rootKind hs ?_ ?_
    · exact hsaved saved List.mem_cons_self
    · intro other hother
      exact hsaved other (List.mem_cons_of_mem _ hother)
  · exact hi

/-- A view is opened, which goes with the view on top. -/
theorem push
    (hi : h.Holds r roots P)
    {next : Destination}
    (hnext : P (.ofDestination h.session next) (some h.top)) :
    (h.push next).Holds r roots P := by
  apply resizeTop hkept
  refine ⟨hi.registry, hi.rootKind, ⟨?_, hi.tower⟩, hi.history⟩
  have hbelow : h.tower.head? = some h.top := by
    rw [tower_eq_cons, List.head?_cons]
  show P _ h.tower.head?
  rw [hbelow]
  exact hnext

theorem answered
    (hi : h.Holds r roots P)
    (event : Event) :
    (h.answered event).Holds r roots P := by
  have hseen : Holds r roots P { h with session := h.sessionAfter event } :=
    ⟨hi.registry, hi.rootKind, hi.tower, hi.history⟩
  have hr : (h.sessionAfter event).registry = r := hi.registry
  exact hseen.withTop (hkept.answers hr hi.top event)

theorem deliver
    (hi : h.Holds r roots P)
    (event : Event) :
    (h.deliver event).1.Holds r roots P := by
  have hanswered := hi.answered hkept event
  have hsession : (h.answered event).session = h.sessionAfter event := session_withTop _ _
  have hr : (h.sessionAfter event).registry = r := hi.registry
  rw [Host.deliver_eq]
  cases hmove : (h.answer event).move with
  | stay =>
      exact hanswered
  | pop =>
      exact hanswered.pop hkept
  | push next =>
      apply hanswered.push hkept
      rw [hsession, Host.answered, top_withTop]
      exact hkept.opens hr hi.top hmove
  | replace next =>
      apply resizeTop hkept
      apply hanswered.withTop
      rw [hsession, tower_answered]
      exact hkept.replaces hr hi.top hmove

theorem widen
    (hi : h.Holds r roots P)
    (hs : h.stack = []) :
    h.widen.Holds r roots P := by
  unfold Host.widen
  cases h.scope.outward? with
  | none =>
      exact ⟨hi.registry, hi.rootKind, hi.tower, hi.history⟩
  | some scope =>
      apply resizeTop hkept
      refine of_root hi.registry hi.rootKind hs ?_ ?_
      · exact hkept.root hi.registry hi.rootKind scope
      · intro saved hsaved
        rcases List.mem_cons.mp hsaved with rfl | hsaved
        · exact hi.root hs
        · exact hi.history saved hsaved

theorem select
    (hi : h.Holds r roots P)
    (picker : PickerKind) (value : String) :
    (h.select picker value).Holds r roots P := by
  have hr : (selectedSession h.session picker value).registry = r := by
    rw [← hi.registry]
    cases picker <;> rfl
  cases hchanges : changes h.session picker value with
  | true =>
      rw [h.select_of_changes hchanges]
      apply resizeTop hkept
      exact of_root hr hi.rootKind rfl (hkept.root hr hi.rootKind .resources) (by simp)
  | false =>
      cases hlast : h.history.getLast? with
      | some saved =>
          rw [h.select_of_saved hchanges hlast]
          apply resizeTop hkept
          exact of_root hr hi.rootKind rfl (hi.history saved (List.mem_of_getLast? hlast))
            (by simp)
      | none =>
          rw [h.select_of_unsaved hchanges hlast]
          apply resizeTop hkept
          exact ⟨hr, hi.rootKind, hi.tower, by simp⟩

theorem goTo
    (hi : h.Holds r roots P)
    {kind : Kind}
    (hkind : roots kind) :
    (h.goTo kind).Holds r roots P := by
  apply resizeTop hkept
  exact of_root hi.registry hkind rfl (hkept.root hi.registry hkind .resources) (by simp)

theorem step
    (hi : h.Holds r roots P)
    (event : Event) :
    (h.step event).1.Holds r roots P := by
  have hheard := hi.heard event
  rw [h.step_eq_follow]
  cases hroute : h.route event with
  | fit width height =>
      apply resizeTop hkept
      exact ⟨hheard.registry, hheard.rootKind, hheard.tower, hheard.history⟩
  | select picker value =>
      exact hheard.select hkept picker value
  | quit =>
      exact hheard
  | hand event =>
      exact hheard.deliver hkept event
  | back =>
      exact hheard.pop hkept
  | widen =>
      apply hheard.widen hkept
      cases event <;> exact h.stack_of_route_eq_widen hroute
  | goTo kind =>
      obtain ⟨c, hhotkey⟩ := hotkey_of_route hroute
      rw [hi.registry] at hhotkey
      exact hheard.goTo hkept (hkept.hotkey hhotkey)
  | push next =>
      obtain ⟨c, htarget⟩ := target_of_route hroute
      exact hheard.push hkept (hkept.reaches hheard.registry htarget _)

end Holds

variable {r : Registry} {roots : Kind → Prop} {P : View → Option View → Prop}

theorem holds_ofKind
    {session : Session} {kind : Kind}
    (hkept : Kept r roots P)
    (hr : session.registry = r)
    (hkind : roots kind) :
    (ofKind session kind).Holds r roots P :=
  .of_root hr hkind rfl (hkept.root hr hkind .resources) (by simp [ofKind])

/-- What is kept of views holds of all of them after every run. -/
theorem holds_run
    {session : Session} {kind : Kind}
    (hkept : Kept r roots P)
    (hr : session.registry = r)
    (hkind : roots kind)
    (events : List Event) :
    ((ofKind session kind).run events).Holds r roots P :=
  run_induction (P := Holds r roots P) (fun _ event hi => hi.step hkept event)
    (holds_ofKind hkept hr hkind) events

end Host
end ClusterNav
