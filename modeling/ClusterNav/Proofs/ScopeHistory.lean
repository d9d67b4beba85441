import ClusterNav.Proofs.HostRoute
import ClusterNav.Proofs.ListAnswer

/-!
# The history of scopes

The root view walks outward through the scopes and leaves a root behind in each.
Whatever happens, the roots left are those of the scopes inside the current one,
in their order, and each of them is a root of its scope.

What makes a list the root of a scope is its subject: its kind and what it is for.
No event changes the subject of a list, and no list puts another view in its own
place, so only the host can change the subject of a root.

**Results.**
* `ScopesInStep.follow`: every route keeps scope, root and history in step.
* `scopes_in_step`: they are in step after every run.
-/

namespace ClusterNav

/-! ## The roots of scopes -/

namespace Scope

/-- The scopes in the order in which the root view walks through them. -/
def ring : List Scope :=
  [.resources, .namespaces, .contexts]

/-- The scopes inside a scope are those before it in the ring. -/
theorem inner_eq_takeWhile (s : Scope) :
    s.inner = ring.takeWhile (· ≠ s) := by
  cases s <;> rfl

/-- A scope inside another has the same place there as in the ring. -/
theorem getElem?_ring_of_inner
    {s t : Scope} {i : Nat}
    (h : s.inner[i]? = some t) :
    ring[i]? = some t := by
  have hprefix : s.inner <+: ring := by
    rw [inner_eq_takeWhile]
    exact List.takeWhile_prefix _
  obtain ⟨outer, houter⟩ := hprefix
  obtain ⟨hi, -⟩ := List.getElem?_eq_some_iff.mp h
  rw [← houter, List.getElem?_append_left hi, h]

/-- The last scope inside a scope has all others inside itself. -/
theorem eq_inner_of_inner_eq_append
    {s t : Scope} {before : List Scope}
    (h : s.inner = before ++ [t]) :
    before = t.inner := by
  have hbefore : before = s.inner.dropLast := by
    rw [h, List.dropLast_concat]
  have hlast : s.inner.getLast? = some t := by
    rw [h, List.getLast?_concat]
  cases s <;> simp [inner] at hlast hbefore <;> subst hlast hbefore <;> rfl

/-- The first scope inside another is that of the resources. -/
theorem eq_resources_of_head?_inner
    {s t : Scope}
    (h : s.inner.head? = some t) :
    t = .resources := by
  cases s <;> simp [inner] at h <;> exact h.symm

theorem eq_resources_of_inner_eq_nil
    {s : Scope}
    (h : s.inner = []) :
    s = .resources := by
  cases s <;> simp [inner] at h ⊢

end Scope

/-- What the root list of a scope is a list of, and what for. -/
def rootSubject (session : Session) (rootKind : Kind) : Scope → Kind × ListMode
  | .resources => (rootKind, .browse)
  | .namespaces => (session.registry.namespaceKind, .scope .namespaces session.ns.label)
  | .contexts => (session.registry.contextKind, .scope .contexts session.context)

/-- A view that is the root of a scope. -/
def IsRoot (session : Session) (rootKind : Kind) (scope : Scope) (view : View) : Prop :=
  ∃ v : ListView, view = .list v ∧ v.subject = rootSubject session rootKind scope

theorem isRoot_rootOf (session : Session) (rootKind : Kind) (scope : Scope) :
    IsRoot session rootKind scope (Host.rootOf session rootKind scope) := by
  cases scope <;> exact ⟨_, rfl, rfl⟩

namespace IsRoot

variable {session : Session} {rootKind : Kind} {scope : Scope} {view : View}

theorem setSize
    (hroot : IsRoot session rootKind scope view)
    (width height : Nat) :
    IsRoot session rootKind scope (view.setSize width height) := by
  obtain ⟨v, rfl, hsubject⟩ := hroot
  exact ⟨_, rfl, by rw [ListView.subject_setSize, hsubject]⟩

theorem respond
    (hroot : IsRoot session rootKind scope view)
    (seen : Session) (event : Event) :
    IsRoot session rootKind scope (view.respond seen event).view := by
  obtain ⟨v, rfl, hsubject⟩ := hroot
  exact ⟨_, rfl, by rw [(v.stays_respond seen event).subject, hsubject]⟩

theorem move_ne_replace
    (hroot : IsRoot session rootKind scope view)
    (seen : Session) (event : Event) (next : Destination) :
    (view.respond seen event).move ≠ .replace next := by
  obtain ⟨v, rfl, -⟩ := hroot
  exact (v.stays_respond seen event).move next

end IsRoot

/-! ## Scope, root and history -/

/-- The roots left are those of the scopes inside the current one, and every root
belongs to its scope. -/
structure ScopesInStep (h : Host) : Prop where
  scopes : h.history.reverse.map (·.scope) = h.scope.inner
  root : IsRoot h.session h.rootKind h.scope h.root
  saved : ∀ s ∈ h.history, IsRoot h.session h.rootKind s.scope s.root

namespace ScopesInStep

variable {h : Host}

/-- Another view on top matters only where the top is the root. -/
theorem withTop
    (hi : ScopesInStep h)
    {v : View}
    (hv : h.stack = [] → IsRoot h.session h.rootKind h.scope v) :
    ScopesInStep (h.withTop v) := by
  rw [Host.withTop_eq]
  refine ⟨hi.scopes, ?_, hi.saved⟩
  by_cases hs : h.stack = []
  · simpa [hs] using hv hs
  · simpa [hs] using hi.root

/-- Where the top is the root, it is the root of the scope. -/
theorem top
    (hi : ScopesInStep h)
    (hs : h.stack = []) :
    IsRoot h.session h.rootKind h.scope h.top := by
  rw [h.top_of_nil hs]
  exact hi.root

theorem heard
    (hi : ScopesInStep h)
    (event : Event) :
    ScopesInStep (h.heard event) := by
  cases event <;> exact ⟨hi.scopes, hi.root, hi.saved⟩

theorem resizeTop
    (hi : ScopesInStep h) :
    ScopesInStep h.resizeTop :=
  hi.withTop fun hs => (hi.top hs).setSize _ _

theorem push
    (hi : ScopesInStep h)
    (next : Destination) :
    ScopesInStep (h.push next) := by
  apply resizeTop
  exact ⟨hi.scopes, hi.root, hi.saved⟩

/-- Going back at the root goes back to the last root left. -/
theorem pop
    (hi : ScopesInStep h) :
    ScopesInStep h.pop := by
  unfold Host.pop
  split
  · apply resizeTop
    exact ⟨hi.scopes, hi.root, hi.saved⟩
  · rename_i saved rest _ hhistory
    apply resizeTop
    have hscopes := hi.scopes
    have hsaved := hi.saved
    rw [hhistory] at hscopes hsaved
    refine ⟨?_, hsaved saved List.mem_cons_self, fun s hs => hsaved s (List.mem_cons_of_mem _ hs)⟩
    apply Scope.eq_inner_of_inner_eq_append (s := h.scope)
    simpa using hscopes.symm
  · exact hi

/-- The answer of the top view keeps all in step: a root answers as the root it
is. -/
theorem answered
    (hi : ScopesInStep h)
    (event : Event) :
    ScopesInStep (h.answered event) := by
  have hseen : ScopesInStep { h with session := h.sessionAfter event } :=
    ⟨hi.scopes, hi.root, hi.saved⟩
  exact hseen.withTop fun hs => (hi.top hs).respond _ event

theorem deliver
    (hi : ScopesInStep h)
    (event : Event) :
    ScopesInStep (h.deliver event).1 := by
  rw [Host.deliver_eq]
  have hanswered := hi.answered event
  cases hmove : (h.answer event).move with
  | stay =>
      exact hanswered
  | push next =>
      exact hanswered.push next
  | pop =>
      exact hanswered.pop
  | replace next =>
      -- Only a view above the root is replaced.
      have hstack : h.stack ≠ [] := by
        intro hs
        exact (hi.top hs).move_ne_replace _ event next hmove
      have hreplaced : ScopesInStep
          ((h.answered event).withTop
            (.ofDestination (h.answered event).session next)) := by
        apply hanswered.withTop
        intro hs
        rw [Host.answered, Host.stack_withTop, List.set_eq_nil_iff] at hs
        exact absurd hs hstack
      exact hreplaced.resizeTop

theorem widen
    (hi : ScopesInStep h) :
    ScopesInStep h.widen := by
  unfold Host.widen
  cases houtward : h.scope.outward? with
  | none =>
      exact ⟨hi.scopes, hi.root, hi.saved⟩
  | some scope =>
      apply resizeTop
      refine ⟨?_, isRoot_rootOf _ _ _, ?_⟩
      · rw [List.reverse_cons, List.map_append, hi.scopes, Scope.inner_outward houtward]
        rfl
      · intro s hs
        rcases List.mem_cons.mp hs with rfl | hs
        · exact hi.root
        · exact hi.saved s hs

theorem goTo
    (kind : Kind) :
    ScopesInStep (h.goTo kind) := by
  apply resizeTop
  exact ⟨rfl, ⟨_, rfl, rfl⟩, by simp⟩

/-- The first scope left is that of the resources. -/
theorem scope_of_getLast?_eq_some
    (hi : ScopesInStep h)
    {saved : SavedRoot}
    (hlast : h.history.getLast? = some saved) :
    saved.scope = .resources := by
  apply Scope.eq_resources_of_head?_inner (s := h.scope)
  rw [← hi.scopes, List.head?_map, List.head?_reverse, hlast]
  rfl

/-- The first root left is that of the resources. -/
theorem isRoot_of_getLast?
    (hi : ScopesInStep h)
    {saved : SavedRoot}
    (hlast : h.history.getLast? = some saved) :
    IsRoot h.session h.rootKind .resources saved.root := by
  rw [← hi.scope_of_getLast?_eq_some hlast]
  exact hi.saved saved (List.mem_of_getLast? hlast)

/-- Without a root left, the scope is that of the resources. -/
theorem scope_of_getLast?_eq_none
    (hi : ScopesInStep h)
    (hlast : h.history.getLast? = none) :
    h.scope = .resources := by
  apply Scope.eq_resources_of_inner_eq_nil
  rw [← hi.scopes, List.getLast?_eq_none_iff.mp hlast]
  rfl

/-- A choice leads back to the resources, to a new root or to the root left there. -/
theorem select
    (hi : ScopesInStep h)
    (kind : PickerKind) (value : String) :
    ScopesInStep (h.select kind value) := by
  cases hchanges : Host.changes h.session kind value with
  | true =>
      rw [h.select_of_changes hchanges]
      apply resizeTop
      exact ⟨rfl, ⟨_, rfl, rfl⟩, by simp⟩
  | false =>
      cases hlast : h.history.getLast? with
      | some saved =>
          rw [h.select_of_saved hchanges hlast]
          apply resizeTop
          exact ⟨rfl, hi.isRoot_of_getLast? hlast, by simp⟩
      | none =>
          rw [h.select_of_unsaved hchanges hlast]
          apply resizeTop
          have hroot := hi.root
          rw [hi.scope_of_getLast?_eq_none hlast] at hroot
          exact ⟨rfl, hroot, by simp⟩

theorem follow
    (hi : ScopesInStep h)
    (r : Route) :
    ScopesInStep (h.follow r).1 := by
  cases r with
  | fit width height =>
      apply resizeTop
      exact ⟨hi.scopes, hi.root, hi.saved⟩
  | select kind value =>
      exact hi.select kind value
  | quit =>
      exact hi
  | hand event =>
      exact hi.deliver event
  | back =>
      exact hi.pop
  | widen =>
      exact hi.widen
  | goTo kind =>
      exact goTo kind
  | push next =>
      exact hi.push next

theorem ofKind (session : Session) (kind : Kind) :
    ScopesInStep (.ofKind session kind) :=
  ⟨rfl, ⟨_, rfl, rfl⟩, by simp [Host.ofKind]⟩

theorem step
    (hi : ScopesInStep h)
    (event : Event) :
    ScopesInStep (h.step event).1 := by
  rw [Host.step_eq_follow]
  exact (hi.heard event).follow _

theorem run
    (hi : ScopesInStep h)
    (events : List Event) :
    ScopesInStep (h.run events) :=
  Host.run_induction (P := ScopesInStep) (fun _ event hi => hi.step event) hi events

end ScopesInStep

/-- After every run, the scopes left are those before the current scope in the
ring, the oldest first; the current root and all roots left belong to their
scopes. -/
theorem scopes_in_step (session : Session) (kind : Kind) (events : List Event) :
    let h := (Host.ofKind session kind).run events
    h.history.reverse.map (·.scope) = Scope.ring.takeWhile (· ≠ h.scope) ∧
    h.history.length =
      (match h.scope with
      | .resources => 0
      | .namespaces => 1
      | .contexts => 2) ∧
    IsRoot h.session h.rootKind h.scope h.root ∧
    ∀ (i : Nat) (saved : SavedRoot), h.history.reverse[i]? = some saved →
      Scope.ring[i]? = some saved.scope ∧
      IsRoot h.session h.rootKind saved.scope saved.root := by
  intro h
  have hi : ScopesInStep h := (ScopesInStep.ofKind session kind).run events
  have hscopes := hi.scopes
  refine ⟨by rw [hscopes, Scope.inner_eq_takeWhile], ?_, hi.root, ?_⟩
  · rw [← List.length_reverse, ← List.length_map (f := SavedRoot.scope), hscopes]
    cases h.scope <;> rfl
  · intro i saved hget
    refine ⟨?_, hi.saved saved (List.mem_reverse.mp (List.mem_of_getElem? hget))⟩
    have hinner : h.scope.inner[i]? = some saved.scope := by
      rw [← hscopes, List.getElem?_map, hget]
      rfl
    exact Scope.getElem?_ring_of_inner hinner

end ClusterNav
