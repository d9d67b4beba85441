import ClusterNav.Proofs.CursorRow
import ClusterNav.Proofs.ScopeChoice

/-!
# The lists of the scopes

The root lists of the wider scopes show all their items and have no prompt, so that
keys have their usual meaning.  This says what the keys that lead outward and to the
end of a list do there.

**Results.**
* `ListView.length_visible_ofScope`: a list of a scope shows all its items.
* `Host.Rests`: a list at the root, and what keys do to it.
-/

namespace ClusterNav

namespace ListView

open Select

theorem filter_state_selectFirst (l : FilterList) (p : FilterMatch → Bool) :
    (l.selectFirst p).filter = l.filter ∧ (l.selectFirst p).state = l.state := by
  unfold FilterList.selectFirst
  split <;> exact ⟨rfl, rfl⟩

/-- A new list of a scope has no filter and no prompt. -/
theorem unfiltered_ofScope (session : Session) (picker : PickerKind) :
    (ofScope session picker).list.filter = "" ∧
    (ofScope session picker).list.state = .unfiltered :=
  filter_state_selectFirst _ _

theorem takesAllKeys_setSize_ofScope
    (session : Session) (picker : PickerKind) (width height : Nat) :
    ((ofScope session picker).setSize width height).takesAllKeys = false := by
  have hstate := (unfiltered_ofScope session picker).2
  show ((ofScope session picker).list.state == .filtering || false) = false
  rw [hstate]
  rfl

/-- A new list of a scope shows all its items. -/
theorem length_visible_ofScope (session : Session) (picker : PickerKind) :
    (ofScope session picker).list.visible.length = (ofScope session picker).items.length := by
  rw [(paged_ofScope session picker).visible_eq, (unfiltered_ofScope session picker).1,
    FilterList.length_matchesFrom_empty, List.length_map]

theorem syncNamespace_of_mode_ne
    {v : ListView}
    (hmode : v.mode ≠ .browse)
    (ns : NamespaceScope) :
    v.syncNamespace ns = v := by
  rw [syncNamespace, if_neg (fun h => hmode h.2)]

/-- The list with the cursor on its last row. -/
def atEnd (v : ListView) : ListView :=
  { v with list := v.list.selectVisible v.list.visible.length }

/-- To go to the end changes only the cursor. -/
theorem atEnd_setSize (v : ListView) (width height : Nat) (store : ColumnStore) :
    let last := ((v.setSize width height).atEnd.refreshColumns store).list
    last.visible = v.list.visible ∧
    last.paginator.perPage = max (max (height - 1) 1) 1 ∧
    last.cursor = min v.list.visible.length (v.list.visible.length - 1) :=
  ⟨rfl, rfl, rfl⟩

/-- The last item is selected with one key. -/
theorem respond_end
    {v : ListView} {session : Session}
    (hkeys : v.takesAllKeys = false)
    (hsync : v.syncNamespace session.ns = v) :
    v.respond session (.key ⟨"end"⟩) = { view := v.atEnd.refreshColumns session.columns } := by
  rw [takesAllKeys, Bool.or_eq_false_iff] at hkeys
  have hkey : v.key session ⟨"end"⟩ = { view := v.atEnd } := by
    rw [key, if_neg (by simp [hkeys.1]), if_neg (by simp [hkeys.2])]
    rfl
  unfold respond
  dsimp only
  rw [hsync, hkey]
  rfl

/-- To choose an entry of a scope changes nothing in the list. -/
theorem respond_enter
    {v : ListView} {picker : PickerKind} {current : String}
    (hkeys : v.takesAllKeys = false)
    (hmode : v.mode = .scope picker current)
    (session : Session) :
    ∃ effect, v.respond session (.key ⟨"enter"⟩) =
      { view := v.refreshColumns session.columns, effect := effect } := by
  rw [takesAllKeys, Bool.or_eq_false_iff] at hkeys
  have hkey : ∃ effect, v.key session ⟨"enter"⟩ = { view := v, effect := effect } := by
    rw [key, if_neg (by simp [hkeys.1]), if_neg (by simp [hkeys.2])]
    show ∃ effect, v.enter = _
    unfold enter
    rw [hmode]
    cases v.selected? with
    | none =>
        exact ⟨none, rfl⟩
    | some item =>
        exact ⟨_, rfl⟩
  obtain ⟨effect, hkey⟩ := hkey
  refine ⟨effect, ?_⟩
  unfold respond
  dsimp only
  rw [syncNamespace_of_mode_ne (by simp [hmode]), hkey]
  rfl

end ListView

namespace Host

variable {h : Host}

/-- At the root the user goes back to a wider scope. -/
theorem step_left
    (hs : h.stack = [])
    (hkeys : h.top.takesAllKeys = false) :
    (h.step (.key ⟨"left"⟩)).1 = widen { h with notice := "" } := by
  have hroute : h.route (.key ⟨"left"⟩) = .widen := by
    show (if h.top.takesAllKeys then _ else h.globalRoute ⟨"left"⟩) = _
    have hdepth : ¬ 1 < h.depth := by
      simp [depth, hs]
    rw [if_neg (by simp [hkeys]), globalRoute, if_neg (by decide), if_neg (by decide),
      if_pos (by decide), if_neg hdepth]
  rw [step_eq_follow, hroute]
  rfl

/-- The user looks at a list at the root, without a banner. -/
structure Rests (session : Session) (height : Nat) (scope : Scope) (v : ListView) (h : Host) :
    Prop where
  session_eq : h.session = session
  height_eq : h.height = height
  scope_eq : h.scope = scope
  stack_eq : h.stack = []
  top_eq : h.top = .list v
  notice_eq : h.notice = ""

namespace Rests

variable {session : Session} {height : Nat} {scope : Scope} {v : ListView}

/-- A root that was fitted. -/
theorem of_resizeTop
    {g : Host}
    (hsession : g.session = session)
    (hheight : g.height = height)
    (hpos : 7 ≤ height)
    (hscope : g.scope = scope)
    (hstack : g.stack = [])
    (hroot : g.root = .list v)
    (hnotice : g.notice = "") :
    Rests session height scope (v.setSize g.width (height - 4)) g.resizeTop := by
  have hsize : g.bodySize = (g.width, height - 4) := by
    rw [bodySize_eq, framing_eq, if_neg (by omega), if_pos hnotice, hheight,
      Nat.max_eq_left (by omega)]
  refine ⟨?_, ?_, ?_, ?_, ?_, ?_⟩
  · rw [resizeTop_eq, withTop_eq]
    exact hsession
  · rw [height_resizeTop, hheight]
  · rw [scope_resizeTop, hscope]
  · exact (resizeTop_of_nil hstack).1
  · rw [top_resizeTop, fitted, hsize, g.top_of_nil hstack, hroot]
    rfl
  · rw [resizeTop_eq, notice_withTop, hnotice]

theorem withoutNotice
    (hr : Rests session height scope v h) :
    { h with notice := "" } = h := by
  rw [← hr.notice_eq]

theorem heard
    (hr : Rests session height scope v h)
    (event : Event) :
    h.heard event = h := by
  cases event with
  | key k =>
      exact hr.withoutNotice
  | resize width height | message m =>
      rfl

theorem root_eq
    (hr : Rests session height scope v h) :
    h.root = .list v := by
  rw [← h.top_of_nil hr.stack_eq, hr.top_eq]

/-- The list answers an event and stays. -/
theorem hand
    (hr : Rests session height scope v h)
    {event : Event} {w : ListView} {effect : Option Effect} {store : ColumnStore}
    (hroute : h.route event = .hand event)
    (hstore : v.storeAfter event session.columns = store)
    (hrespond : v.respond { session with columns := store } event =
      { view := w, effect := effect }) :
    Rests { session with columns := store } height scope w (h.step event).1 ∧
    (h.step event).1.history = h.history := by
  have hsession : h.sessionAfter event = { session with columns := store } := by
    rw [sessionAfter, hr.top_eq, hr.session_eq, ← hstore]
    rfl
  have hanswer : h.answer event = { view := .list w, effect := effect } := by
    rw [answer, hr.top_eq, hsession]
    exact congrArg (Response.map View.list) hrespond
  have hstep : (h.step event).1 =
      { h with session := { session with columns := store }, root := .list w } := by
    rw [step_eq_follow, hr.heard, hroute, follow, deliver_eq, answered, hanswer, hsession,
      withTop_eq]
    simp [move, hr.stack_eq]
  rw [hstep]
  exact ⟨⟨rfl, hr.height_eq, hr.scope_eq, hr.stack_eq,
    top_of_nil { h with session := { session with columns := store }, root := .list w }
      hr.stack_eq, hr.notice_eq⟩, rfl⟩

/-- Going back leads to the root list of the next scope. -/
theorem left
    (hr : Rests session height scope v h)
    (hseven : 7 ≤ height)
    (hkeys : v.takesAllKeys = false)
    {next : Scope} (picker : PickerKind)
    (houtward : scope.outward? = some next)
    (hpicker : picker? next = some picker) :
    Rests session height next
      ((ListView.ofScope session picker).setSize h.width (height - 4))
      (h.step (.key ⟨"left"⟩)).1 := by
  have htop : h.top.takesAllKeys = false := by
    rw [hr.top_eq]
    exact hkeys
  let wider : Host :=
    { h with
      root := rootOf h.session h.rootKind next
      history := ⟨scope, h.root⟩ :: h.history
      scope := next }
  have hstep : (h.step (.key ⟨"left"⟩)).1 = wider.resizeTop := by
    rw [step_left hr.stack_eq htop, hr.withoutNotice, widen, hr.scope_eq, houtward]
  have hroot : wider.root = .list (.ofScope session picker) := by
    show rootOf h.session h.rootKind next = _
    rw [rootOf, hpicker, hr.session_eq]
  rw [hstep]
  exact of_resizeTop (g := wider) hr.session_eq hr.height_eq hseven rfl hr.stack_eq hroot
    hr.notice_eq

/-- The root that is left goes into the history. -/
theorem history_left
    (hr : Rests session height scope v h)
    (hkeys : v.takesAllKeys = false)
    {next : Scope}
    (houtward : scope.outward? = some next) :
    (h.step (.key ⟨"left"⟩)).1.history = ⟨scope, .list v⟩ :: h.history := by
  have htop : h.top.takesAllKeys = false := by
    rw [hr.top_eq]
    exact hkeys
  rw [step_left hr.stack_eq htop, hr.withoutNotice, widen, hr.scope_eq, houtward,
    history_resizeTop, hr.root_eq]

theorem last
    (hr : Rests session height scope v h)
    (hkeys : v.takesAllKeys = false)
    (hmode : v.mode ≠ .browse) :
    Rests session height scope (v.atEnd.refreshColumns session.columns)
      (h.step (.key ⟨"end"⟩)).1 := by
  have hroute : h.route (.key ⟨"end"⟩) = .hand (.key ⟨"end"⟩) := by
    apply h.route_of_globalRoute
    rw [globalRoute, if_neg (by decide), if_neg (by decide), if_neg (by decide)]
    rfl
  have hsync := ListView.syncNamespace_of_mode_ne hmode session.ns
  exact (hr.hand hroute rfl (ListView.respond_end hkeys hsync)).1

/-- An entry of the scope is chosen, which the host will hear of in a message. -/
theorem enter
    (hr : Rests session height scope v h)
    (hkeys : v.takesAllKeys = false)
    {picker : PickerKind} {current : String}
    (hmode : v.mode = .scope picker current) :
    Rests session height scope (v.refreshColumns session.columns) (h.step (.key ⟨"enter"⟩)).1 ∧
    (h.step (.key ⟨"enter"⟩)).1.history = h.history := by
  have hroute : h.route (.key ⟨"enter"⟩) = .hand (.key ⟨"enter"⟩) := by
    apply h.route_of_globalRoute
    rw [globalRoute, if_neg (by decide), if_neg (by decide), if_neg (by decide)]
    rfl
  obtain ⟨effect, hrespond⟩ := ListView.respond_enter hkeys hmode session
  exact hr.hand hroute rfl hrespond

/-- No scope is wider than that of the contexts, and a banner says so. -/
theorem warns
    (hr : Rests session height .contexts v h)
    (hkeys : v.takesAllKeys = false) :
    ∃ notice, notice ≠ "" ∧ (h.step (.key ⟨"left"⟩)).1 = { h with notice := notice } := by
  have htop : h.top.takesAllKeys = false := by
    rw [hr.top_eq]
    exact hkeys
  rw [step_left hr.stack_eq htop, hr.withoutNotice, widen, hr.scope_eq]
  refine ⟨_, ?_, rfl⟩
  show s!"Already at the {Scope.contexts.title} scope; esc to go back." ≠ ""
  decide +kernel

theorem warned
    (hr : Rests session height .contexts v h)
    (hkeys : v.takesAllKeys = false) :
    (h.step (.key ⟨"left"⟩)).1.top = .list v ∧
    (h.step (.key ⟨"left"⟩)).1.notice ≠ "" := by
  obtain ⟨notice, hnotice, hstep⟩ := hr.warns hkeys
  rw [hstep]
  exact ⟨hr.top_eq, hnotice⟩

end Rests

end Host
end ClusterNav
