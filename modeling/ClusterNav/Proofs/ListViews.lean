import ClusterNav.Host

/-!
# Lists among the views

Many properties are about lists and say nothing of other views.  A view that is not a
list neither becomes one, whatever it answers to and whatever its size, nor comes from
one.  So such a property holds of all views when it holds of new lists and is kept by
what a list does.

**Results.**
* `View.IfList`: a property of lists, as one of views.
* `View.IfList.setSize`, `View.IfList.respond`: how it is kept.
* `View.ifList_ofDestination`, `View.ifList_rootOf`: new views have it.
-/

namespace ClusterNav
namespace View

/-- A view that is a list has a property. -/
def IfList (P : ListView → Prop) (u : View) : Prop :=
  ∀ v, u = .list v → P v

variable {P Q : ListView → Prop} {u : View}

theorem ifList_list
    {v : ListView}
    (hv : P v) :
    (View.list v).IfList P := by
  intro w hw
  cases hw
  exact hv

theorem IfList.mono
    (hu : u.IfList P)
    (hPQ : ∀ v, P v → Q v) :
    u.IfList Q :=
  fun v hv => hPQ v (hu v hv)

theorem IfList.setSize
    (hu : u.IfList P)
    (hsize : ∀ v, P v → ∀ width height, P (v.setSize width height))
    (width height : Nat) :
    (u.setSize width height).IfList P := by
  cases u with
  | list v =>
      exact ifList_list (hsize v (hu v rfl) width height)
  | detail v | text v | relations v | pods v | containers v | log v | columns v | scope v
  | browser v | help v =>
      intro w hw
      cases hw

theorem IfList.respond
    {session : Session} {event : Event}
    (hu : u.IfList P)
    (hrespond : ∀ v, P v → Q (v.respond session event).view) :
    (u.respond session event).view.IfList Q := by
  cases u with
  | list v =>
      exact ifList_list (hrespond v (hu v rfl))
  | detail v | text v | relations v | pods v | containers v | log v | columns v | scope v
  | browser v | help v =>
      intro w hw
      cases hw

theorem ifList_ofDestination
    {session : Session}
    (hkind : ∀ kind, P (.ofKind session kind))
    (next : Destination) :
    (ofDestination session next).IfList P := by
  cases next with
  | list kind =>
      exact ifList_list (hkind kind)
  | detail kind item | text page kind item | relations kind item | pods kind items
  | containers kind item names | log kind item container | columns choice | scope picker
  | browser | help =>
      intro w hw
      cases hw

theorem ifList_rootOf
    {session : Session}
    (hkind : ∀ kind, P (.ofKind session kind))
    (hscope : ∀ picker, P (.ofScope session picker))
    (kind : Kind) (scope : Scope) :
    (Host.rootOf session kind scope).IfList P := by
  cases scope with
  | resources =>
      exact ifList_list (hkind kind)
  | namespaces | contexts =>
      exact ifList_list (hscope _)

end View
end ClusterNav
