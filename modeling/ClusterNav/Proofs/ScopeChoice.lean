import ClusterNav.Proofs.ScopeHistory
import ClusterNav.Proofs.ViewTower

/-!
# Choosing a namespace or a context

A choice may reach the host at any depth and in any scope.  It always leads back to
the resources: to a new list when the choice is a new one, to the root that was left
there when it is not, and to nowhere else when no root was left.

To make a choice a second time is not to choose anything new, no root is left by
then, and the top view has its room already.  So the second time changes nothing.

**Results.**
* `Host.select_select`: making a choice again changes nothing.
* `scope_choice`: what a choice does to a reachable host.
-/

namespace ClusterNav
namespace Host

/-! ## The session of a choice -/

section Sessions

variable (session : Session) (picker : PickerKind) (value : String)

theorem changes_eq_false_iff :
    changes session picker value = false ↔ selectedSession session picker value = session := by
  cases picker with
  | namespaces =>
      obtain ⟨registry, columns, context, ns⟩ := session
      simp [changes, selectedSession]
  | contexts =>
      obtain ⟨registry, columns, context, ns⟩ := session
      simp [changes, selectedSession]

theorem selectedSession_selectedSession :
    selectedSession (selectedSession session picker value) picker value =
      selectedSession session picker value := by
  cases picker <;> rfl

end Sessions

/-! ## The host after a choice -/

variable (h : Host) (picker : PickerKind) (value : String)

/-- The host at the resources with other views, and without roots left. -/
def home (session : Session) (root : View) (stack : List View) : Host :=
  { h with session := session, root := root, stack := stack, history := [], scope := .resources }

theorem select_eq_home :
    ∃ root stack,
      h.select picker value =
        (h.home (selectedSession h.session picker value) root stack).resizeTop := by
  cases hchanges : changes h.session picker value with
  | true =>
      exact ⟨_, _, h.select_of_changes hchanges⟩
  | false =>
      cases hlast : h.history.getLast? with
      | some saved =>
          exact ⟨_, _, h.select_of_saved hchanges hlast⟩
      | none =>
          exact ⟨_, _, h.select_of_unsaved hchanges hlast⟩

/-- What a choice sets, and what it leaves alone. -/
theorem fields_select :
    (h.select picker value).session = selectedSession h.session picker value ∧
    (h.select picker value).scope = .resources ∧
    (h.select picker value).history = [] ∧
    (h.select picker value).rootKind = h.rootKind ∧
    (h.select picker value).width = h.width ∧
    (h.select picker value).height = h.height ∧
    (h.select picker value).notice = h.notice := by
  obtain ⟨root, stack, hselect⟩ := h.select_eq_home picker value
  rw [hselect, resizeTop_eq, withTop_eq]
  exact ⟨rfl, rfl, rfl, rfl, rfl, rfl, rfl⟩

theorem resizeTop_select :
    (h.select picker value).resizeTop = h.select picker value := by
  obtain ⟨root, stack, hselect⟩ := h.select_eq_home picker value
  rw [hselect, resizeTop_resizeTop]

/-- Making a choice again changes nothing. -/
theorem select_select :
    (h.select picker value).select picker value = h.select picker value := by
  obtain ⟨hsession, hscope, hhistory, -⟩ := h.fields_select picker value
  have hsame :
      selectedSession (h.select picker value).session picker value =
        (h.select picker value).session := by
    rw [hsession, selectedSession_selectedSession]
  have hchanges : changes (h.select picker value).session picker value = false :=
    (changes_eq_false_iff _ _ _).mpr hsame
  have hnone : (h.select picker value).history.getLast? = none := by
    rw [hhistory]
    rfl
  rw [select_of_unsaved _ hchanges hnone, hsame, ← hscope, ← hhistory]
  exact h.resizeTop_select picker value

/-! ## The views after a choice -/

variable {h}

theorem resizeTop_of_nil
    (hs : h.stack = []) :
    h.resizeTop.stack = [] ∧ h.resizeTop.root = h.resizeTop.fitted h.root := by
  rw [fitted_resizeTop, resizeTop_eq, h.top_of_nil hs, withTop_eq, hs]
  exact ⟨rfl, rfl⟩

/-- A new choice starts from a new list. -/
theorem views_select_of_changes
    (hchanges : changes h.session picker value = true) :
    (h.select picker value).stack = [] ∧
    (h.select picker value).root =
      (h.select picker value).fitted
        (.list (.ofKind (selectedSession h.session picker value) h.rootKind)) := by
  rw [h.select_of_changes hchanges]
  exact resizeTop_of_nil rfl

/-- The old choice goes back to the first root left. -/
theorem views_select_of_saved
    {saved : SavedRoot}
    (hchanges : changes h.session picker value = false)
    (hlast : h.history.getLast? = some saved) :
    (h.select picker value).stack = [] ∧
    (h.select picker value).root = (h.select picker value).fitted saved.root := by
  rw [h.select_of_saved hchanges hlast]
  exact resizeTop_of_nil rfl

/-- The old choice leaves the views where they are when no root was left. -/
theorem views_select_of_unsaved
    (hchanges : changes h.session picker value = false)
    (hhistory : h.history = []) :
    (h.select picker value).tower = (h.select picker value).fitted h.top :: h.tower.tail := by
  have hnone : h.history.getLast? = none := by
    rw [hhistory]
    rfl
  rw [h.select_of_unsaved hchanges hnone, tower_resizeTop, fitted_resizeTop]
  rfl

end Host

/-- A choice sets the namespace or the context of a reachable host and leads back to
the resources without roots left.  When it changes the session, the views are a new
list of the kind of the root.  When it does not, they are the root that was left for
the resources, or the views as they were when none was left.  The top view gets the
room.  The same choice once more changes nothing. -/
theorem scope_choice
    (session : Session) (kind : Kind) (events : List Event)
    (picker : PickerKind) (value : String) :
    let h := (Host.ofKind session kind).run events
    let choice := Event.message (.selected picker value)
    let g := (h.step choice).1
    (h.step choice).2 = none ∧
    g.scope = .resources ∧
    g.history = [] ∧
    g.session =
      (match picker with
      | .namespaces => { h.session with ns := .parse value }
      | .contexts => { h.session with context := value }) ∧
    (g.rootKind = h.rootKind ∧ g.width = h.width ∧ g.height = h.height ∧
      g.notice = h.notice) ∧
    (g.session ≠ h.session →
      g.stack = [] ∧ g.root = g.fitted (.list (.ofKind g.session h.rootKind))) ∧
    (g.session = h.session → ∀ saved, h.history.getLast? = some saved →
      saved.scope = .resources ∧ g.stack = [] ∧ g.root = g.fitted saved.root) ∧
    (g.session = h.session → h.history = [] →
      g.tower = g.fitted h.top :: h.tower.tail) ∧
    (g.step choice).1 = g := by
  intro h choice g
  have hi : ScopesInStep h := (ScopesInStep.ofKind session kind).run events
  obtain ⟨hsession, hscope, hhistory, hkept⟩ := h.fields_select picker value
  have hsame :
      Host.changes h.session picker value = false ↔ g.session = h.session := by
    rw [Host.changes_eq_false_iff, ← hsession]
    exact Iff.rfl
  refine ⟨rfl, hscope, hhistory, hsession, hkept, ?_, ?_, ?_, h.select_select picker value⟩
  · intro hnew
    have hchanges : Host.changes h.session picker value = true :=
      eq_true_of_ne_false (mt hsame.mp hnew)
    have hviews := Host.views_select_of_changes picker value hchanges
    rw [← hsession] at hviews
    exact hviews
  · intro hold saved hlast
    exact ⟨hi.scope_of_getLast?_eq_some hlast,
      Host.views_select_of_saved picker value (hsame.mpr hold) hlast⟩
  · intro hold hempty
    exact Host.views_select_of_unsaved picker value (hsame.mpr hold) hempty

end ClusterNav
