import ClusterNav.Proofs.ColumnIsolation
import ClusterNav.Proofs.EscapeKey
import ClusterNav.Proofs.ListViews
import ClusterNav.Proofs.ScopeLists
import ClusterNav.Proofs.ViewOrigins
import Mathlib.Data.List.Induction

/-!
# The columns that a list holds

A list asks the store for its columns when it is opened and when it answers an event,
and holds them in between.  While it lies below other views, or is on top but asked
nothing, a list of the same name elsewhere may take over a choice of columns.  The first
list then still holds what the store said when it was asked last.

**Results.**
* `Host.held_since`: a list of a run holds the columns of an earlier state, and has
  waited at its place since then.
* `held_columns_up_to_date_iff`: when a list on top holds what the store says.
* `stale_columns_revealed`: a list that comes to light with columns that are not those of
  the store.
-/

namespace ClusterNav

/-! ## Lists and the store -/

namespace ListView

/-- A list holds what the store says of its kind: the columns, after the one of the
namespace where the list shows it, and whether they were chosen. -/
structure UpToDate (v : ListView) (store : ColumnStore) : Prop where
  columns : v.columns =
    (if v.showsNamespace then [namespaceColumn] else []) ++ store.get v.kind.name v.kind.columns
  custom : v.customColumns = store.isCustom v.kind.name

/-- A list is another one, or that one fitted into an area. -/
def Resized (w v : ListView) : Prop :=
  v = w ∨ ∃ width height, v = w.setSize width height

variable {v w : ListView} {store : ColumnStore}

theorem upToDate_refreshColumns (v : ListView) (store : ColumnStore) :
    (v.refreshColumns store).UpToDate store where
  columns := by
    show (if v.showsNamespace then _ else _) = (if v.showsNamespace then _ else _) ++ _
    split <;> rfl
  custom := rfl

theorem UpToDate.setSize
    (hv : v.UpToDate store)
    (width height : Nat) :
    (v.setSize width height).UpToDate store :=
  ⟨hv.columns, hv.custom⟩

theorem Resized.refl (v : ListView) : v.Resized v :=
  .inl rfl

theorem Resized.setSize
    (hw : w.Resized v)
    (width height : Nat) :
    w.Resized (v.setSize width height) := by
  rcases hw with rfl | ⟨_, _, rfl⟩
  · exact .inr ⟨width, height, rfl⟩
  · exact .inr ⟨width, height, rfl⟩

theorem Resized.upToDate
    (hw : w.Resized v)
    (hstore : w.UpToDate store) :
    v.UpToDate store := by
  rcases hw with rfl | ⟨width, height, rfl⟩
  · exact hstore
  · exact hstore.setSize width height

/-- What a list took from one store is what another store says when the two say the
same of its kind. -/
theorem UpToDate.iff_of_upToDate
    (hv : v.UpToDate store)
    (other : ColumnStore) :
    v.UpToDate other ↔
      other.get v.kind.name v.kind.columns = store.get v.kind.name v.kind.columns ∧
      other.isCustom v.kind.name = store.isCustom v.kind.name := by
  constructor
  · intro hother
    refine ⟨?_, hother.custom.symm.trans hv.custom⟩
    exact List.append_cancel_left (hother.columns.symm.trans hv.columns)
  · rintro ⟨hget, hcustom⟩
    refine ⟨?_, hv.custom.trans hcustom.symm⟩
    rw [hget]
    exact hv.columns

theorem upToDate_ofKind (session : Session) (kind : Kind) :
    (ofKind session kind).UpToDate session.columns :=
  upToDate_refreshColumns _ _

theorem upToDate_ofScope (session : Session) (picker : PickerKind) :
    (ofScope session picker).UpToDate session.columns := by
  have hopened := upToDate_refreshColumns
    ((unloaded (ofScope session picker).kind (ofScope session picker).mode session.ns).reload)
    session.columns
  exact ⟨hopened.columns, hopened.custom⟩

end ListView

/-! ## Lists among the views -/

namespace View

/-- The list that a view is. -/
def list? : View → Option ListView
  | .list v => some v
  | _ => none

theorem list?_eq_some_iff {u : View} {v : ListView} : u.list? = some v ↔ u = .list v := by
  cases u <;> simp [list?]

/-- A view that is a list holds what the store says. -/
def UpToDate (u : View) (store : ColumnStore) : Prop :=
  u.IfList fun v => v.UpToDate store

/-- Whatever a list held before, it is up to date when it has answered. -/
theorem upToDate_respond (u : View) (session : Session) (event : Event) :
    (u.respond session event).view.UpToDate session.columns :=
  IfList.respond (P := fun _ => True) (fun _ _ => trivial)
    fun _ _ => ListView.upToDate_refreshColumns _ _

theorem upToDate_ofDestination (session : Session) (next : Destination) :
    (ofDestination session next).UpToDate session.columns :=
  ifList_ofDestination (ListView.upToDate_ofKind session) next

theorem upToDate_rootOf (session : Session) (kind : Kind) (scope : Scope) :
    (Host.rootOf session kind scope).UpToDate session.columns :=
  ifList_rootOf (ListView.upToDate_ofKind session) (ListView.upToDate_ofScope session) kind scope

end View

namespace Host

/-- Only a list is fitted to a list. -/
theorem eq_list_of_fitted
    {h : Host} {u : View} {v : ListView}
    (hv : View.list v = h.fitted u) :
    ∃ w, u = .list w ∧ v = w.setSize h.bodySize.1 h.bodySize.2 := by
  cases u with
  | list w =>
      cases hv
      exact ⟨w, rfl, rfl⟩
  | detail w | text w | relations w | pods w | containers w | log w | columns w | scope w
  | browser w | help w =>
      cases hv

theorem upToDate_of_fitted
    {h : Host} {u : View} {v : ListView} {store : ColumnStore}
    (hu : u.UpToDate store)
    (hv : View.list v = h.fitted u) :
    v.UpToDate store := by
  obtain ⟨w, hw, rfl⟩ := eq_list_of_fitted hv
  exact (hu w hw).setSize _ _

/-! ## Waiting -/

/-- From a state on, a list lies at the same place and answers no event. -/
structure Waits (h : Host) (w : ListView) (below : List View) (events : List Event) : Prop where
  held : ∀ p, p <+: events → ∃ x, w.Resized x ∧ View.list x :: below <:+ (h.run p).views
  /-- What is handed to the top view is handed to a view above the list. -/
  idle : ∀ p event e, p ++ [event] <+: events → (h.run p).route event = .hand e →
    below.length < (h.run p).below.length

theorem Waits.nil
    {h : Host} {w : ListView} {below : List View}
    (hplace : View.list w :: below <:+ h.views) :
    h.Waits w below [] where
  held := by
    intro p hp
    obtain rfl := List.prefix_nil.mp hp
    exact ⟨w, .refl w, hplace⟩
  idle := by
    intro p event e hp
    simp at hp

/-- One more event, in which the list waits as well. -/
theorem Waits.snoc
    {h : Host} {w x : ListView} {below : List View} {events : List Event} {event : Event}
    (hwaits : h.Waits w below events)
    (hx : w.Resized x)
    (hplace : View.list x :: below <:+ (h.run (events ++ [event])).views)
    (hidle : ∀ e, (h.run events).route event = .hand e →
      below.length < (h.run events).below.length) :
    h.Waits w below (events ++ [event]) where
  held := by
    intro p hp
    rcases List.prefix_concat_iff.mp hp with rfl | hp
    · exact ⟨x, hx, hplace⟩
    · exact hwaits.held p hp
  idle := by
    intro p last e hp
    rcases List.prefix_concat_iff.mp hp with heq | hp
    · obtain ⟨rfl, hlast⟩ := List.append_inj' heq rfl
      cases hlast
      exact hidle e
    · exact hwaits.idle p last e hp

/-- Since the last time it took its columns a list has waited at its place. -/
theorem held_since
    {start : Host}
    (hstart : ∀ v below, View.list v :: below <:+ start.views → v.UpToDate start.session.columns)
    (events : List Event) :
    ∀ v below, View.list v :: below <:+ (start.run events).views →
      ∃ past more w, events = past ++ more ∧
        w.UpToDate (start.run past).session.columns ∧
        (start.run past).Waits w below more ∧ w.Resized v := by
  -- From the end of the run back, through the origin of the list in the last step.
  induction events using List.reverseRecOn with
  | nil =>
      intro v below hplace
      exact ⟨[], [], v, rfl, hstart v below hplace, .nil hplace, .refl v⟩
  | append_singleton prior event ih =>
      intro v below hplace
      have hrun : start.run (prior ++ [event]) = ((start.run prior).step event).1 := by
        rw [run_append]
        rfl
      have hfollow := (start.run prior).step_eq_follow event
      have hnow (hfresh : v.UpToDate ((start.run prior).step event).1.session.columns) :
          ∃ past more w, prior ++ [event] = past ++ more ∧
            w.UpToDate (start.run past).session.columns ∧
            (start.run past).Waits w below more ∧ w.Resized v := by
        rw [← hrun] at hfresh
        exact ⟨prior ++ [event], [], v, by simp, hfresh, .nil hplace, .refl v⟩
      have hplace' := hplace
      rw [hrun] at hplace'
      cases (start.run prior).origin_step hplace' with
      | waits u place same ns idle =>
          obtain ⟨x, rfl, hx⟩ : ∃ x, u = .list x ∧ x.Resized v := by
            rcases same with rfl | same
            · exact ⟨v, rfl, .refl v⟩
            · obtain ⟨x, hu, rfl⟩ := eq_list_of_fitted same
              exact ⟨x, hu, (ListView.Resized.refl x).setSize _ _⟩
          rw [views_heard] at place
          obtain ⟨past, more, w, rfl, hfresh, hwaits, hw⟩ := ih x below place
          have hv : w.Resized v := by
            rcases hx with rfl | ⟨width, height, rfl⟩
            · exact hw
            · exact hw.setSize width height
          refine ⟨past, more ++ [event], w, by rw [List.append_assoc], hfresh, ?_, hv⟩
          rw [List.append_assoc, run_append] at hplace
          rw [run_append, below_heard] at idle
          exact hwaits.snoc hv hplace fun e he => (idle e he).length_le
      | answers e route view place =>
          apply hnow
          have hsession : ((start.run prior).step event).1.session =
              (start.run prior).sessionAfter e := by
            rw [hfollow, route, follow, session_deliver, sessionAfter_heard]
          rw [answer_heard] at view
          rw [hsession]
          exact View.upToDate_respond _ _ _ v view.symm
      | opens next view =>
          apply hnow
          rw [← hfollow] at view
          exact upToDate_of_fitted (View.upToDate_ofDestination _ _) view
      | starts kind scope view =>
          apply hnow
          rw [← hfollow] at view
          exact upToDate_of_fitted (View.upToDate_rootOf _ _ _) view

end Host

/-- A list on top of any run took its columns in an earlier state of the run, when it was
opened or answered an event, and has waited at its place since then.  It holds what the
store says now exactly when the store says the same of its kind as in that state.  So it
does when no choice of columns for its name was delivered since then. -/
theorem held_columns_up_to_date_iff
    (session : Session) (kind : Kind) (events : List Event) (v : ListView)
    (htop : ((Host.ofKind session kind).run events).top = .list v) :
    let now := (Host.ofKind session kind).run events
    ∃ past more w,
      events = past ++ more ∧
      let asked := (Host.ofKind session kind).run past
      w.UpToDate asked.session.columns ∧
      asked.Waits w now.below more ∧
      w.Resized v ∧
      (v.UpToDate now.session.columns ↔
        now.session.columns.get v.kind.name v.kind.columns =
          asked.session.columns.get v.kind.name v.kind.columns ∧
        now.session.columns.isCustom v.kind.name =
          asked.session.columns.isCustom v.kind.name) ∧
      ((∀ ids, .message (.picked v.kind.name ids) ∉ more) →
        v.UpToDate now.session.columns) := by
  intro now
  have hstart (x : ListView) (below : List View)
      (hx : View.list x :: below <:+ (Host.ofKind session kind).views) :
      x.UpToDate (Host.ofKind session kind).session.columns := by
    have hmem := hx.mem List.mem_cons_self
    obtain rfl : x = .ofKind session kind := by
      simpa [Host.views, Host.ofKind] using hmem
    exact ListView.upToDate_ofKind session kind
  have hplace : View.list v :: now.below <:+ now.views := by
    rw [← htop]
    exact ⟨[], now.views_eq_cons.symm⟩
  obtain ⟨past, more, w, hevents, hw, hwaits, hv⟩ := Host.held_since hstart events v _ hplace
  have hiff := (hv.upToDate hw).iff_of_upToDate now.session.columns
  refine ⟨past, more, w, hevents, hw, hwaits, hv, hiff, ?_⟩
  intro hmore
  have hnow : now = ((Host.ofKind session kind).run past).run more := by
    rw [← Host.run_append, ← hevents]
  have hchoice := Host.choice?_run ((Host.ofKind session kind).run past) hmore
  rw [← hnow] at hchoice
  exact hiff.mpr ⟨ColumnStore.get_congr hchoice _, congrArg Option.isSome hchoice⟩

/-- Help is opened over the config maps and closed: nothing was chosen meanwhile. -/
theorem held_columns_up_to_date_help :
    let now := (Host.ofKind (.ofRegistry .standard .empty) .configMap).run
      [.key ⟨"?"⟩, .key ⟨"esc"⟩]
    ∃ v, now.top = .list v ∧ v.UpToDate now.session.columns := by
  intro now
  have hlist : now.top.list?.isSome = true := by
    decide +kernel
  obtain ⟨v, hv⟩ := Option.isSome_iff_exists.mp hlist
  have htop : now.top = .list v := View.list?_eq_some_iff.mp hv
  obtain ⟨past, more, w, hevents, -, -, -, -, hunchosen⟩ :=
    held_columns_up_to_date_iff (.ofRegistry .standard .empty) .configMap
      [.key ⟨"?"⟩, .key ⟨"esc"⟩] v htop
  refine ⟨v, htop, hunchosen ?_⟩
  intro ids hmem
  have hkeys := List.mem_append_right past hmem
  rw [← hevents] at hkeys
  simp at hkeys

theorem ListView.modes_ofScope (session : Session) (picker : PickerKind) :
    (ofScope session picker).modes = [] := by
  obtain ⟨hfilter, hstate⟩ := unfiltered_ofScope session picker
  apply Select.FilterList.modes_eq_nil_iff.mpr
  constructor
  · show ((ofScope session picker).list.state == .filtering || false) = false
    rw [hstate]
    rfl
  · show (!(ofScope session picker).list.filter.isEmpty) = false
    rw [hfilter]
    decide

namespace Host

/-- A list answers a choice of columns for its name by taking them. -/
theorem Rests.picks
    {session : Session} {height : Nat} {scope : Scope} {v : ListView} {h : Host}
    (hr : Rests session height scope v h)
    (hmode : v.mode ≠ .browse)
    (ids : List String) :
    let store := session.columns.pick v.kind.name v.kind.columns ids
    let g := (h.step (.message (.picked v.kind.name ids))).1
    Rests { session with columns := store } height scope (v.refreshColumns store) g ∧
    g.history = h.history := by
  intro store g
  have hrespond : v.respond { session with columns := store } (.message (.picked v.kind.name ids)) =
      { view := v.refreshColumns store } := by
    unfold ListView.respond
    dsimp only
    rw [ListView.syncNamespace_of_mode_ne hmode]
    rfl
  exact hr.hand rfl (if_pos rfl) hrespond

/-- A list without modes gives way to the root left last. -/
theorem Rests.returns
    {session : Session} {height : Nat} {scope : Scope} {v w : ListView} {h : Host}
    {rest : List SavedRoot} {inner : Scope}
    (hr : Rests session height scope v h)
    (hmodes : v.modes = [])
    (hhistory : h.history = ⟨inner, .list w⟩ :: rest) :
    ∃ width height, (h.step (.key ⟨"esc"⟩)).1.top = .list (w.setSize width height) := by
  have hescape := h.escape_step (.inr (.inr (by simp [hhistory])))
  cases hescape with
  | ends mode modes tower history scope =>
      rw [hr.top_eq, View.modes, hmodes] at modes
      cases modes
  | closes u below modes before tower history scope =>
      rw [h.tower_of_nil hr.stack_eq] at before
      cases before
  | returns saved others modes bottom before tower history scope =>
      rw [hhistory] at before
      cases before
      rw [tower_eq_cons] at tower
      exact ⟨_, _, (List.cons.inj tower).1⟩

/-- The list of namespaces is left for the scope of namespaces, whose list goes by the same
name.  Columns that are chosen there reach the store, and not the list that was left. -/
theorem returns_to_namespaces :
    let session : Session := .ofRegistry .standard .empty
    let h := (Host.ofKind session .namespaces).run
      [.resize 100 30, .key ⟨"left"⟩, .message (.picked "namespaces" ["name", "age"])]
    let g := (h.step (.key ⟨"esc"⟩)).1
    (∃ width height, g.top =
      .list (((ListView.ofKind session .namespaces).setSize 100 26).setSize width height)) ∧
    g.session.columns =
      session.columns.pick "namespaces" Kind.namespaces.columns ["name", "age"] := by
  intro session h g
  let first : ListView := (ListView.ofKind session .namespaces).setSize 100 26
  let start : Host := ((Host.ofKind session .namespaces).step (.resize 100 30)).1
  have hstart : Host.Rests session 30 .resources first start :=
    .of_resizeTop (g := { Host.ofKind session .namespaces with width := 100, height := 30 })
      rfl rfl (by decide) rfl rfl rfl rfl
  have hscope := hstart.left (by decide) rfl .namespaces rfl rfl
  have hhistory := hstart.history_left rfl rfl
  obtain ⟨hpicked, hsame⟩ := hscope.picks nofun ["name", "age"]
  have hbare : (ListView.ofScope session .namespaces).modes = [] :=
    ListView.modes_ofScope session .namespaces
  refine ⟨hpicked.returns hbare (hsame.trans hhistory), ?_⟩
  show (h.step (.key ⟨"esc"⟩)).1.session.columns = _
  rw [Host.session_step_key]
  exact congrArg Session.columns hpicked.session_eq

/-- This list does not say that columns were chosen, though they were. -/
theorem custom_returned :
    let session : Session := .ofRegistry .standard .empty
    let store := session.columns.pick "namespaces" Kind.namespaces.columns ["name", "age"]
    (ListView.ofKind session .namespaces).customColumns = false ∧
    store.isCustom "namespaces" = true := by
  decide +kernel

end Host

/-- The list of the resources scope and that of the namespace scope go by the same name.
A choice of columns is made in the second one.  When the first one comes back, it still
holds the columns that it had, and does not say that columns were chosen. -/
theorem stale_columns_revealed :
    let h := (Host.ofKind (.ofRegistry .standard .empty) .namespaces).run
      [.resize 100 30, .key ⟨"left"⟩, .message (.picked "namespaces" ["name", "age"])]
    let g := (h.step (.key ⟨"esc"⟩)).1
    ∃ v, g.top = .list v ∧
      v.columns.map (·.id) = ["name", "status", "age"] ∧
      (g.session.columns.get v.kind.name v.kind.columns).map (·.id) = ["name", "age"] ∧
      v.customColumns = false ∧
      g.session.columns.isCustom v.kind.name = true ∧
      ¬ v.UpToDate g.session.columns := by
  intro h g
  let session : Session := .ofRegistry .standard .empty
  obtain ⟨⟨width, height, htop⟩, hstore⟩ := Host.returns_to_namespaces
  obtain ⟨hheld, hcustom⟩ := Host.custom_returned
  have hids : (ListView.ofKind session .namespaces).columns.map (·.id) =
        ["name", "status", "age"] ∧
      ((session.columns.pick "namespaces" Kind.namespaces.columns ["name", "age"]).get
          "namespaces" Kind.namespaces.columns).map (·.id) = ["name", "age"] := by
    decide +kernel
  rw [← hstore] at hids hcustom
  refine ⟨_, htop, hids.1, hids.2, hheld, hcustom, ?_⟩
  intro hfresh
  have hcontra : false = true := (hheld.symm.trans hfresh.custom).trans hcustom
  cases hcontra

end ClusterNav
