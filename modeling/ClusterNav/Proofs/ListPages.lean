import ClusterNav.Proofs.FilterPages
import ClusterNav.Proofs.ListViews
import ClusterNav.Proofs.TowerInvariant

/-!
# Lists in order

Every list that a host holds, whether it stands on the tower or is the root of a
scope that was left, shows the page of its cursor.  A host makes new lists in order,
and the top view is the only one that a step may change.

**Results.**
* `Host.PagesInOrder.step`: a step keeps all lists in order.
* `Host.pagesInOrder_run`: they are in order after every run.
-/

namespace ClusterNav

namespace View

/-- A list shows the page of its cursor. -/
def Paged (v : View) : Prop :=
  ∀ w, v = .list w → ∃ n, w.Paged n

theorem paged_setSize
    {v : View}
    (h : v.Paged)
    (width height : Nat) :
    (v.setSize width height).Paged := by
  refine IfList.setSize h ?_ width height
  rintro w ⟨n, hn⟩ width height
  exact ⟨_, ListView.paged_setSize hn width height⟩

theorem paged_respond
    {v : View}
    (h : v.Paged)
    (session : Session) (event : Event) :
    (v.respond session event).view.Paged := by
  refine IfList.respond h ?_
  rintro w ⟨n, hn⟩
  exact ⟨n, ListView.paged_respond hn session event⟩

theorem paged_ofDestination (session : Session) (next : Destination) :
    (ofDestination session next).Paged :=
  ifList_ofDestination (fun kind => ⟨_, ListView.paged_ofKind session kind⟩) next

theorem paged_rootOf (session : Session) (kind : Kind) (scope : Scope) :
    (Host.rootOf session kind scope).Paged :=
  ifList_rootOf (fun kind => ⟨_, ListView.paged_ofKind session kind⟩)
    (fun picker => ⟨_, ListView.paged_ofScope session picker⟩) kind scope

end View

namespace Host

/-- All lists of a host, on the tower and among the roots left, show the pages of
their cursors. -/
structure PagesInOrder (h : Host) : Prop where
  tower : ∀ v ∈ h.tower, v.Paged
  history : ∀ saved ∈ h.history, saved.root.Paged

namespace PagesInOrder

variable {h : Host}

theorem top
    (hi : PagesInOrder h) :
    h.top.Paged := by
  apply hi.tower
  rw [tower_eq_cons]
  exact List.mem_cons_self

end PagesInOrder

/-- Views keep their lists in order, whatever kinds there are. -/
theorem kept_paged (r : Registry) : Kept r (fun _ => True) (fun v _ => v.Paged) where
  hotkey _ := trivial
  root _ _ scope := View.paged_rootOf _ _ scope
  fits hv width height := View.paged_setSize hv width height
  answers _ hv event := View.paged_respond hv _ event
  opens _ _ _ := View.paged_ofDestination _ _
  replaces _ _ _ := View.paged_ofDestination _ _
  reaches _ _ _ := View.paged_ofDestination _ _

theorem pagesInOrder_iff (h : Host) :
    PagesInOrder h ↔ h.Holds h.session.registry (fun _ => True) (fun v _ => v.Paged) := by
  constructor
  · intro hi
    exact ⟨rfl, trivial, (standing_iff_forall _ _).mpr hi.tower, hi.history⟩
  · intro hi
    exact ⟨(standing_iff_forall _ _).mp hi.tower, hi.history⟩

theorem PagesInOrder.step
    {h : Host}
    (hi : PagesInOrder h)
    (event : Event) :
    PagesInOrder (h.step event).1 := by
  have hstep := ((pagesInOrder_iff h).mp hi).step (kept_paged _) event
  rw [pagesInOrder_iff, hstep.registry]
  exact hstep

theorem pagesInOrder_run (session : Session) (kind : Kind) (events : List Event) :
    PagesInOrder ((ofKind session kind).run events) := by
  have hrun : ((ofKind session kind).run events).Holds session.registry (fun _ => True)
      (fun v _ => v.Paged) :=
    holds_run (kept_paged session.registry) rfl trivial events
  rw [pagesInOrder_iff, hrun.registry]
  exact hrun

end Host
end ClusterNav
