import ClusterNav.Proofs.ListItems
import ClusterNav.Proofs.ListViews
import ClusterNav.Proofs.ViewOrigins

/-!
# Lists of the session

A list is opened with the items of the namespace that the session looks at, and a new
choice of namespace gives up all views.  So every list of a host, covered or left or on
top, holds the items that it has to show in the session.

**Results.**
* `Host.current_step`: a step keeps all lists current.
* `Host.current_run`: all lists of a reachable host are current.
-/

namespace ClusterNav

/-! ## One list -/

namespace ListView

/-- A list holds the items that it has to show in a session.  A list of a scope does not
look at the namespace. -/
structure Current (v : ListView) (session : Session) : Prop where
  ns_eq : v.mode = .browse → v.ns = session.ns
  items_eq : v.items = v.loaded

variable {v : ListView} {session : Session}

theorem current_ofKind (session : Session) (kind : Kind) :
    (ofKind session kind).Current session :=
  ⟨fun _ => rfl, rfl⟩

theorem current_ofScope (session : Session) (picker : PickerKind) :
    (ofScope session picker).Current session :=
  ⟨fun _ => rfl, rfl⟩

theorem Current.setSize
    (h : v.Current session)
    (width height : Nat) :
    (v.setSize width height).Current session :=
  ⟨h.ns_eq, h.items_eq⟩

theorem Current.loaded
    (h : v.Current session) :
    v.Loaded v.ns :=
  ⟨rfl, h.items_eq⟩

/-- Whatever a list answers to, it is current then. -/
theorem Current.respond
    (h : v.Current session)
    (now : Session) (event : Event) :
    (v.respond now event).view.Current now := by
  have hloaded := loaded_respond h.loaded now event
  have hmode : (v.respond now event).view.mode = v.mode :=
    congrArg Prod.snd (v.stays_respond now event).subject
  refine ⟨?_, hloaded.items_eq⟩
  intro hbrowse
  rw [hmode] at hbrowse
  rw [hloaded.ns_eq, nsIn, if_pos hbrowse]

end ListView

/-! ## All lists of a host -/

/-- A view that is a list is current. -/
def View.Current (u : View) (session : Session) : Prop :=
  u.IfList fun v => v.Current session

namespace View

theorem Current.setSize
    {u : View} {session : Session}
    (hu : u.Current session)
    (width height : Nat) :
    (u.setSize width height).Current session :=
  IfList.setSize hu (fun _ hv => hv.setSize) width height

theorem Current.respond
    {u : View} {session : Session}
    (hu : u.Current session)
    (now : Session) (event : Event) :
    (u.respond now event).view.Current now :=
  IfList.respond hu fun _ hv => hv.respond now event

theorem current_ofDestination (session : Session) (next : Destination) :
    (ofDestination session next).Current session :=
  ifList_ofDestination (ListView.current_ofKind session) next

theorem current_rootOf (session : Session) (kind : Kind) (scope : Scope) :
    (Host.rootOf session kind scope).Current session :=
  ifList_rootOf (ListView.current_ofKind session) (ListView.current_ofScope session) kind scope

/-- Only the namespace of a session matters. -/
theorem Current.of_ns_eq
    {u : View} {session now : Session}
    (hu : u.Current session)
    (hns : now.ns = session.ns) :
    u.Current now := by
  refine IfList.mono hu fun v hv => ⟨?_, hv.items_eq⟩
  rw [hns]
  exact hv.ns_eq

end View

namespace Host

variable {h : Host}

/-- A step keeps all lists current. -/
theorem current_step
    (hi : ∀ u ∈ h.views, u.Current h.session)
    (event : Event) :
    ∀ u ∈ (h.step event).1.views, u.Current (h.step event).1.session := by
  intro u hu
  obtain ⟨above, below, hviews⟩ := List.append_of_mem hu
  have hplace : u :: below <:+ (h.step event).1.views := ⟨above, hviews.symm⟩
  rw [step_eq_follow]
  cases h.origin_step hplace with
  | waits w place same ns idle =>
      rw [views_heard] at place
      rw [session_heard] at ns
      have hw := (hi w (place.mem List.mem_cons_self)).of_ns_eq ns
      rcases same with rfl | rfl
      · exact hw
      · exact hw.setSize _ _
  | answers e route view place =>
      rw [route, follow, session_deliver, sessionAfter_heard, view, answer_heard]
      exact (hi h.top h.top_mem_views).respond _ e
  | opens next view =>
      rw [view]
      exact (View.current_ofDestination _ next).setSize _ _
  | starts kind scope view =>
      rw [view]
      exact (View.current_rootOf _ kind scope).setSize _ _

/-- All lists of a reachable host hold the items that they have to show. -/
theorem current_run
    (session : Session) (kind : Kind) (events : List Event) :
    let h := (ofKind session kind).run events
    ∀ u ∈ h.views, u.Current h.session := by
  refine run_induction (P := fun h => ∀ u ∈ h.views, u.Current h.session)
    (fun _ event hi => current_step hi event) ?_ events
  intro u hu
  obtain rfl : u = .list (.ofKind session kind) := by
    simpa [views, ofKind] using hu
  exact View.ifList_list (ListView.current_ofKind session kind)

end Host
end ClusterNav
