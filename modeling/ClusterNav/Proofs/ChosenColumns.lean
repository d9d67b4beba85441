import ClusterNav.Proofs.CheckedRows
import ClusterNav.Proofs.CurrentLists
import ClusterNav.Proofs.PromptKeys

/-!
# Choosing the columns of a list

The key for columns opens a box on a list.  While the box is open, keys move its cursor
and check its rows, and the list below waits.  The key that commits the choice closes
the box and sends the choice, which the list takes over when it comes as a message.
Then the list shows the name and the columns of the checked rows, in the order of the
rows, and to open the box and commit it once more changes nothing.

**Results.**
* `Host.boxed_run`: what keys and sizes do to an open box.
* `Host.round`: from the key that opens the box to the list that took over the choice.
* `chosen_columns_shown`: what the list shows then, and that the same choice made again
  changes nothing.
-/

namespace ClusterNav

/-! ## An open box -/

/-- A box stays open: the screen gets a size, or a key comes that does not close it. -/
inductive Event.LeavesOpen : Event → Prop
  | size (width height : Nat) : LeavesOpen (.resize width height)
  | key {k : Key} (hesc : k.name ≠ "esc") (henter : k.name ≠ "enter") : LeavesOpen (.key k)

/-- Does an event check a row of a box, or no longer? -/
def Event.toggles : Event → Bool
  | .key k => k.isSpace
  | .resize _ _ | .message _ => false

namespace ColumnPicker

/-- A box has become another one by use. -/
structure Used (p q : ColumnPicker) : Prop where
  offer : q.offer = p.offer
  opening : q.opening = p.opening

theorem Used.trans
    {p q r : ColumnPicker}
    (hpq : p.Used q)
    (hqr : q.Used r) :
    p.Used r :=
  ⟨hqr.offer.trans hpq.offer, hqr.opening.trans hpq.opening⟩

theorem opening_toggle (p : ColumnPicker) : p.toggle.opening = p.opening := by
  unfold toggle
  split <;> rfl

theorem opening_key (p : ColumnPicker) (k : Key) : (p.key k).view.opening = p.opening := by
  cases p.keyChange k with
  | changes _ hq =>
      rw [hq, opening_toggle]
  | reverts _ hq | moves _ _ _ _ hq =>
      rw [hq]

theorem used_key (p : ColumnPicker) (k : Key) : p.Used (p.key k).view :=
  ⟨p.offer_key k, p.opening_key k⟩

/-- No key but the blank leads away from what was checked at first. -/
theorem checked_key
    {p : ColumnPicker} {k : Key}
    (hblank : k.isSpace = false)
    (hchecked : p.checked = p.opening) :
    (p.key k).view.checked = p.opening := by
  cases p.keyChange k with
  | changes hkey _ =>
      rw [hblank] at hkey
      cases hkey
  | reverts _ hq =>
      rw [hq]
  | moves _ _ _ _ hq =>
      rw [hq]
      exact hchecked

/-- Only two keys close a box. -/
theorem silent_key
    {k : Key}
    (hesc : k.name ≠ "esc")
    (henter : k.name ≠ "enter")
    (p : ColumnPicker) :
    (p.key k).Silent := by
  cases p.chooses_key k with
  | stays silent =>
      exact silent
  | cancels key move effect =>
      exact absurd key hesc
  | commits key move m effect =>
      exact absurd key henter

end ColumnPicker

namespace Host

variable {h : Host}

/-- An open box stays on the views below it. -/
theorem boxed_step
    {p : ColumnPicker} {below : List View} {event : Event}
    (htower : h.tower = .columns p :: below)
    (hopen : event.LeavesOpen) :
    ∃ q, (h.step event).1.tower = .columns q :: below ∧
      (h.step event).1.session = h.session ∧ p.Used q ∧
      (event.toggles = false → p.checked = p.opening → q.checked = p.opening) := by
  obtain ⟨htop, hbelow⟩ := top_of_tower htower
  cases hopen with
  | size width height =>
      let sized : Host := { h with width := width, height := height }
      have hfit : sized.resizeTop.tower = sized.fitted (.columns p) :: below := by
        rw [tower_resizeTop, ← htop, ← hbelow]
        rfl
      exact ⟨_, hfit, session_resizeTop sized, ⟨rfl, rfl⟩, fun _ hchecked => hchecked⟩
  | @key k hesc henter =>
      have hroute : h.route (.key k) = .hand (.key k) := by
        rw [route, htop]
        rfl
      have hanswer : h.answer (.key k) = (p.key k).map .columns := by
        rw [answer, htop]
        rfl
      have hmove : (h.answer (.key k)).move = .stay := by
        rw [hanswer]
        exact (ColumnPicker.silent_key hesc henter p).move
      refine ⟨(p.key k).view, ?_, h.session_step_key k, p.used_key k, ColumnPicker.checked_key⟩
      rw [step_hand hroute, hmove, move, tower_answered, answer_heard, hanswer, ← hbelow]
      rfl

/-- While a box is open, only the box changes. -/
theorem boxed_run
    {p : ColumnPicker} {below : List View} {events : List Event}
    (htower : h.tower = .columns p :: below)
    (hopen : ∀ event ∈ events, event.LeavesOpen) :
    ∃ q, (h.run events).tower = .columns q :: below ∧
      (h.run events).session = h.session ∧ p.Used q ∧
      ((∀ event ∈ events, event.toggles = false) →
        p.checked = p.opening → q.checked = p.opening) := by
  induction events generalizing h p with
  | nil =>
      exact ⟨p, htower, rfl, ⟨rfl, rfl⟩, fun _ hchecked => hchecked⟩
  | cons event rest ih =>
      obtain ⟨q, hq, hsession, hused, hchecked⟩ :=
        boxed_step htower (hopen event List.mem_cons_self)
      obtain ⟨r, hr, hsame, hmore, hlater⟩ :=
        ih hq fun e he => hopen e (List.mem_cons_of_mem _ he)
      refine ⟨r, hr, hsame.trans hsession, hused.trans hmore, ?_⟩
      intro htoggles hfirst
      have hnow := hchecked (htoggles event List.mem_cons_self) hfirst
      rw [← hused.opening] at hnow ⊢
      exact hlater (fun e he => htoggles e (List.mem_cons_of_mem _ he)) hnow

/-! ## One round -/

variable {v : ListView}

/-- The key for columns is no global one. -/
theorem route_columns
    (hregistry : h.session.registry = .standard) :
    h.route (.key ⟨"c"⟩) = .hand (.key ⟨"c"⟩) := by
  apply h.route_of_globalRoute
  have hrune : h.runeRoute? 'c' = none := by
    rw [runeRoute?, hregistry]
    rfl
  rw [globalRoute, if_neg (by decide), if_neg (by decide), if_neg (by decide)]
  show ((some 'c').bind h.runeRoute?).getD _ = _
  rw [Option.bind_some, hrune]
  rfl

/-- The key for columns opens a box on a list. -/
theorem opens_columns
    (hregistry : h.session.registry = .standard)
    (htop : h.top = .list v)
    (hkeys : v.takesAllKeys = false)
    (hns : v.mode = .browse → v.ns = h.session.ns) :
    ∃ p, (h.step (.key ⟨"c"⟩)).1.tower =
        .columns p :: .list (v.refreshColumns h.session.columns) :: h.tower.tail ∧
      (h.step (.key ⟨"c"⟩)).1.session = h.session ∧
      (ColumnPicker.ofChoice v.columnChoice).Used p ∧ p.checked = p.opening := by
  have hkey : v.key h.session ⟨"c"⟩ = { view := v, move := .push (.columns v.columnChoice) } := by
    rw [ListView.takesAllKeys, Bool.or_eq_false_iff] at hkeys
    rw [ListView.key, if_neg (by simp [hkeys.1]), if_neg (by simp [hkeys.2])]
    rfl
  have hanswer : h.answer (.key ⟨"c"⟩) =
      { view := .list (v.refreshColumns h.session.columns)
        move := .push (.columns v.columnChoice) } := by
    rw [answer, sessionAfter_key, htop]
    change ((v.respond h.session (.key ⟨"c"⟩)).map View.list) = _
    unfold ListView.respond
    dsimp only
    rw [ListView.syncNamespace_eq_self hns, hkey]
    rfl
  have hstep := step_hand (route_columns hregistry)
  rw [hanswer] at hstep
  let waits := (h.heard (.key ⟨"c"⟩)).answered (.key ⟨"c"⟩)
  have hwaits : waits.tower = .list (v.refreshColumns h.session.columns) :: h.tower.tail := by
    rw [tower_answered, answer_heard, hanswer]
    rfl
  have hpush : (waits.push (.columns v.columnChoice)).tower =
      (waits.push (.columns v.columnChoice)).fitted (.columns (.ofChoice v.columnChoice)) ::
        waits.tower := by
    rw [push, tower_resizeTop, fitted_resizeTop]
    rfl
  have htower : (h.step (.key ⟨"c"⟩)).1.tower =
      (waits.push (.columns v.columnChoice)).fitted (.columns (.ofChoice v.columnChoice)) ::
        .list (v.refreshColumns h.session.columns) :: h.tower.tail := by
    rw [hstep, ← hwaits]
    exact hpush
  exact ⟨_, htower, h.session_step_key _, ⟨rfl, rfl⟩, rfl⟩

/-- The key that commits closes the box and sends what is checked. -/
theorem commit_boxed
    {p : ColumnPicker} {u : View} {below : List View}
    (htower : h.tower = .columns p :: u :: below) :
    (h.step (.key ⟨"enter"⟩)).2 = some (.emit (.picked p.resource p.visibleIds)) ∧
    (h.step (.key ⟨"enter"⟩)).1.session = h.session ∧
    (h.step (.key ⟨"enter"⟩)).1.top = (h.step (.key ⟨"enter"⟩)).1.fitted u := by
  obtain ⟨htop, hbelow⟩ := top_of_tower htower
  have hroute : h.route (.key ⟨"enter"⟩) = .hand (.key ⟨"enter"⟩) := by
    rw [route, htop]
    rfl
  have hanswer : h.answer (.key ⟨"enter"⟩) =
      { view := .columns p, move := .pop,
        effect := some (.emit (.picked p.resource p.visibleIds)) } := by
    rw [answer, htop]
    rfl
  have hhead : (h.heard (.key ⟨"enter"⟩)).tower.tail.head? = some u := by
    show h.tower.tail.head? = some u
    rw [hbelow, List.head?_cons]
  refine ⟨?_, h.session_step_key _, ?_⟩
  · rw [step_hand hroute, hanswer]
  · rw [step_hand hroute, hanswer]
    exact top_pop_answered hhead

/-- A list takes over a choice for its name. -/
theorem takes_over
    (htop : h.top = .list v)
    (hns : v.mode = .browse → v.ns = h.session.ns)
    (ids : List String) :
    let store := h.session.columns.pick v.kind.name v.kind.columns ids
    let g := (h.step (.message (.picked v.kind.name ids))).1
    g.session = { h.session with columns := store } ∧ g.top = .list (v.refreshColumns store) := by
  intro store g
  have hsession : h.sessionAfter (.message (.picked v.kind.name ids)) =
      { h.session with columns := store } := by
    rw [sessionAfter, htop]
    simp [View.storeAfter, ListView.storeAfter, store]
  have hanswer : h.answer (.message (.picked v.kind.name ids)) =
      { view := .list (v.refreshColumns store) } := by
    rw [answer, hsession, htop]
    change ((v.respond _ _).map View.list) = _
    unfold ListView.respond
    dsimp only
    rw [ListView.syncNamespace_eq_self hns]
    rfl
  refine ⟨?_, ?_⟩
  · rw [← hsession]
    exact h.session_deliver _
  · show (h.step (.message (.picked v.kind.name ids))).1.top = _
    rw [step_hand (e := .message (.picked v.kind.name ids)) rfl, hanswer, move, answered,
      top_withTop]
    exact congrArg Response.view hanswer

/-- From the key that opens the box to the list that took over the choice. -/
theorem round
    (hregistry : h.session.registry = .standard)
    (htop : h.top = .list v)
    (hkeys : v.takesAllKeys = false)
    (hns : v.mode = .browse → v.ns = h.session.ns)
    {events : List Event}
    (hopen : ∀ event ∈ events, event.LeavesOpen) :
    let boxed := (h.step (.key ⟨"c"⟩)).1.run events
    let committed := boxed.step (.key ⟨"enter"⟩)
    ∃ p, boxed.top = .columns p ∧ p.rows = ColumnPicker.rowsOf v.columnChoice ∧
      ((∀ event ∈ events, event.toggles = false) → p.checked = v.columns.map (·.id)) ∧
      committed.2 = some (.emit (.picked v.kind.name p.visibleIds)) ∧
      let store := h.session.columns.pick v.kind.name v.kind.columns p.visibleIds
      let after := (committed.1.step (.message (.picked v.kind.name p.visibleIds))).1
      after.session = { h.session with columns := store } ∧
      ∃ width height, after.top = .list ((v.setSize width height).refreshColumns store) := by
  intro boxed committed
  obtain ⟨first, hfirst, hsession, hopened, hchecked⟩ := opens_columns hregistry htop hkeys hns
  obtain ⟨p, hp, hsame, hused, hstill⟩ := boxed_run hfirst hopen
  obtain ⟨hresource, hrows⟩ := Prod.mk.inj (hopened.trans hused).offer
  obtain ⟨hsent, hkept, hlist⟩ := commit_boxed hp
  have hsessionCommitted : committed.1.session = h.session :=
    hkept.trans (hsame.trans hsession)
  rw [hresource] at hsent
  refine ⟨p, (top_of_tower hp).1, hrows, ?_, hsent, ?_⟩
  · intro htoggles
    rw [hstill htoggles hchecked, hopened.opening]
    rfl
  · obtain ⟨hstored, htaken⟩ := takes_over (h := committed.1) hlist
      (by rw [hsessionCommitted]; exact hns) p.visibleIds
    rw [hsessionCommitted] at hstored htaken
    exact ⟨hstored, _, _, htaken⟩

end Host

/-! ## Lists of scopes -/

/-- Namespaces and contexts do not live in namespaces. -/
def View.ScopeFree (u : View) : Prop :=
  u.IfList fun v => v.mode ≠ .browse → v.kind.namespaced = false

theorem kept_scopeFree : Kept .standard (fun _ => True) (fun u _ => u.ScopeFree) where
  hotkey _ := trivial
  root {session kind} hr _ scope := by
    refine View.ifList_rootOf (fun _ hmode => absurd rfl hmode) ?_ kind scope
    intro picker _
    cases picker
    · exact congrArg (·.namespaceKind.namespaced) hr
    · exact congrArg (·.contextKind.namespaced) hr
  fits hu width height := View.IfList.setSize hu (fun _ hv _ _ => hv) width height
  answers {session u below} _ hu event := by
    refine View.IfList.respond hu fun v hv => ?_
    obtain ⟨hkind, hmode⟩ := Prod.mk.inj (v.stays_respond session event).subject
    rw [hkind, hmode]
    exact hv
  opens {session u below event next} _ _ _ :=
    View.ifList_ofDestination (fun _ hmode => absurd rfl hmode) next
  replaces {session u below event next} _ _ _ :=
    View.ifList_ofDestination (fun _ hmode => absurd rfl hmode) next
  reaches {session c next} _ _ _ :=
    View.ifList_ofDestination (fun _ hmode => absurd rfl hmode) next

/-! ## The columns shown -/

/-- A list puts the namespace column before the columns of the store, in the scope of all
namespaces and when its items live in namespaces. -/
theorem ListView.columns_refreshColumns
    {v : ListView} {session : Session}
    (hns : v.mode = .browse → v.ns = session.ns)
    (hscope : v.mode ≠ .browse → v.kind.namespaced = false)
    (store : ColumnStore) :
    (v.refreshColumns store).columns =
      (if session.ns.isAll && v.kind.namespaced then [namespaceColumn] else [])
        ++ store.get v.kind.name v.kind.columns := by
  have hshows : v.showsNamespace = (session.ns.isAll && v.kind.namespaced) := by
    by_cases hmode : v.mode = .browse
    · simp [showsNamespace, hmode, hns hmode]
    · simp [showsNamespace, hmode, hscope hmode]
  rw [refreshColumns, hshows]
  dsimp only
  split <;> rfl

/-- Every id that a box on a list offers has a column. -/
theorem ListView.columnOf_offered
    {v : ListView}
    (hlabel : ∀ key, Item.labelId key ∉ v.kind.columns.map (·.id))
    (hitems : ∀ item ∈ v.items, "" ∉ item.labels.keys)
    {id : String}
    (hid : id ∈ ColumnPicker.offered v.columnChoice) :
    ∃ c, ColumnStore.ColumnOf v.kind.columns id c := by
  rcases List.mem_append.mp hid with hpool | hlabels
  · obtain ⟨c, hc, rfl⟩ := List.mem_map.mp hpool
    exact ⟨c, .pooled hc⟩
  · obtain ⟨key, hkey, rfl⟩ := List.mem_map.mp hlabels
    refine ⟨_, .label ?_ (hlabel key)⟩
    rintro rfl
    obtain ⟨item, hitem, hempty⟩ := v.mem_labelKeys_iff.mp hkey
    exact hitems item hitem hempty

section Rows

variable {v : ListView} {p : ColumnPicker}
  (hrows : p.rows = ColumnPicker.rowsOf v.columnChoice)
  (hnamespace : ColumnPicker.namespaceId ∉ v.kind.columns.map (·.id))
include hrows hnamespace

/-- Of a choice that was taken over, the name column is shown and then the columns of the
checked rows, none of which is left out. -/
theorem ColumnPicker.get_pick_visibleIds
    (hpool : (v.kind.columns.map (·.id)).Nodup)
    (hlabel : ∀ key, Item.labelId key ∉ v.kind.columns.map (·.id))
    (hitems : ∀ item ∈ v.items, "" ∉ item.labels.keys)
    (store : ColumnStore) :
    ∃ others,
      (store.pick v.kind.name v.kind.columns p.visibleIds).get v.kind.name v.kind.columns =
        ColumnStore.nameColumn v.kind.columns :: others ∧
      others.map (·.id) = p.checkedRows.map (·.id) ∧
      ∀ c ∈ others, ColumnStore.ColumnOf v.kind.columns c.id c := by
  have hnodup : p.visibleIds.Nodup :=
    (nodup_offered hpool hlabel v.nodup_labelKeys).sublist (visibleIds_sublist hrows)
  refine ⟨(p.checkedRows.map (·.id)).filterMap (ColumnStore.resolve? v.kind.columns), ?_, ?_, ?_⟩
  · rw [ColumnStore.get_pick hpool hnodup, filter_visibleIds hrows hnamespace]
  · rw [ColumnStore.map_id_filterMap_resolve?, List.filter_eq_self]
    intro id hid
    rw [map_id_checkedRows hrows] at hid
    obtain ⟨c, hc⟩ := v.columnOf_offered hlabel hitems (List.mem_of_mem_filter hid)
    rw [(ColumnStore.resolve?_eq_some_iff hpool).mpr hc]
    rfl
  · intro c hc
    obtain ⟨id, -, hid⟩ := List.mem_filterMap.mp hc
    rw [ColumnStore.id_of_resolve? hid]
    exact (ColumnStore.resolve?_eq_some_iff hpool).mp hid

/-- A box that is opened on the columns shown sends the same ids again. -/
theorem ColumnPicker.visibleIds_again
    {w : ListView} {q : ColumnPicker} {others : List Column} {inAll : Bool}
    (hagain : q.rows = rowsOf w.columnChoice)
    (hkind : w.kind = v.kind)
    (hitems : w.items = v.items)
    (hchecked : q.checked = w.columns.map (·.id))
    (hcolumns : w.columns = (if inAll then [ListView.namespaceColumn] else [])
      ++ ColumnStore.nameColumn v.kind.columns :: others)
    (hothers : others.map (·.id) = p.checkedRows.map (·.id)) :
    q.visibleIds = p.visibleIds := by
  have hoffered : offered w.columnChoice = offered v.columnChoice := by
    simp only [offered, ListView.columnChoice, ListView.labelKeys, hkind, hitems]
  refine visibleIds_of_checked hrows hagain hoffered hnamespace ?_ ?_
  · show namespaceId ∉ w.kind.columns.map (·.id)
    rw [hkind]
    exact hnamespace
  · intro id hid hname
    have hnone : id ∉ (if inAll then [ListView.namespaceColumn] else []).map (·.id) := by
      split
      · exact fun hmem => ne_namespaceId hnamespace hid (List.mem_singleton.mp hmem)
      · exact List.not_mem_nil
    rw [hchecked, hcolumns, List.map_append, List.map_cons, ColumnStore.id_nameColumn, hothers,
      ← filter_visibleIds hrows hnamespace, List.mem_append, or_iff_right hnone, List.mem_cons,
      or_iff_right hname, List.mem_filter]
    simp [hname]

end Rows

/-- In all runs: on a list that takes keys, the key for columns opens a box, in which any
keys are pressed before the choice is committed, while the screen gets any sizes.  When
the choice that is sent then reaches the list, the list shows the name column and the
columns of the other checked rows, exactly these and in the order of the rows, after the
namespace column in the scope of all namespaces when its items live in namespaces.  The
list counts as one with chosen columns when the ids differ from those of the default
columns.  To open the box again and commit it with nothing checked or unchecked sends the
same choice, and changes neither the store nor the columns. -/
theorem chosen_columns_shown
    (session : Session) (start : Kind) (past : List Event) (v : ListView) (events : List Event)
    (hregistry : session.registry = .standard)
    (htop : ((Host.ofKind session start).run past).top = .list v)
    (hkeys : v.takesAllKeys = false)
    (hopen : ∀ event ∈ events, event.LeavesOpen)
    (hpool : (v.kind.columns.map (·.id)).Nodup)
    (hnamespace : ColumnPicker.namespaceId ∉ v.kind.columns.map (·.id))
    (hlabel : ∀ key, Item.labelId key ∉ v.kind.columns.map (·.id))
    (hitems : ∀ item ∈ v.items, "" ∉ item.labels.keys) :
    let h := (Host.ofKind session start).run past
    let boxed := (h.step (.key ⟨"c"⟩)).1.run events
    let committed := boxed.step (.key ⟨"enter"⟩)
    ∃ p, boxed.top = .columns p ∧ p.rows = ColumnPicker.rowsOf v.columnChoice ∧
      committed.2 = some (.emit (.picked v.kind.name p.visibleIds)) ∧
      let after := (committed.1.step (.message (.picked v.kind.name p.visibleIds))).1
      ∃ w others, after.top = .list w ∧ w.kind = v.kind ∧
        w.columns =
          (if after.session.ns.isAll && v.kind.namespaced then [ListView.namespaceColumn] else [])
            ++ ColumnStore.nameColumn v.kind.columns :: others ∧
        others.map (·.id) = p.checkedRows.map (·.id) ∧
        (∀ c ∈ others, ColumnStore.ColumnOf v.kind.columns c.id c) ∧
        (after.session.columns.isCustom v.kind.name = true ↔
          p.visibleIds ≠ ColumnStore.defaultIds v.kind.columns) ∧
        w.customColumns = after.session.columns.isCustom v.kind.name ∧
        ∀ again : List Event, (∀ event ∈ again, event.LeavesOpen ∧ event.toggles = false) →
          let recommitted := ((after.step (.key ⟨"c"⟩)).1.run again).step (.key ⟨"enter"⟩)
          let last := (recommitted.1.step (.message (.picked v.kind.name p.visibleIds))).1
          recommitted.2 = some (.emit (.picked v.kind.name p.visibleIds)) ∧
          last.session = after.session ∧
          ∃ x, last.top = .list x ∧ x.columns = w.columns := by
  intro h boxed committed
  have hstandard : h.session.registry = .standard :=
    (Host.registry_run _ past).trans hregistry
  have hcurrent : v.Current h.session :=
    Host.current_run session start past _ h.top_mem_views v htop
  have hscope : v.mode ≠ .browse → v.kind.namespaced = false :=
    (Host.holds_run kept_scopeFree hregistry trivial past).top v htop
  obtain ⟨p, hboxed, hrows, -, hsent, hsession, width, height, hlist⟩ :=
    Host.round hstandard htop hkeys hcurrent.ns_eq hopen
  refine ⟨p, hboxed, hrows, hsent, ?_⟩
  intro after
  let store := h.session.columns.pick v.kind.name v.kind.columns p.visibleIds
  let w := (v.setSize width height).refreshColumns store
  have hafter : after.session = { h.session with columns := store } := hsession
  obtain ⟨others, hshown, hothers, hresolved⟩ :=
    ColumnPicker.get_pick_visibleIds hrows hnamespace hpool hlabel hitems h.session.columns
  have hcolumns : w.columns =
      (if after.session.ns.isAll && v.kind.namespaced then [ListView.namespaceColumn] else [])
        ++ ColumnStore.nameColumn v.kind.columns :: others := by
    rw [hafter, ← hshown]
    exact ListView.columns_refreshColumns (v := v.setSize width height) hcurrent.ns_eq hscope store
  refine ⟨w, others, hlist, rfl, hcolumns, hothers, hresolved, ?_, ?_, ?_⟩
  · rw [hafter]
    exact ColumnStore.isCustom_pick _ _
  · rw [hafter]
    rfl
  · intro again hagain
    obtain ⟨q, -, hrowsAgain, hchecked, hsentAgain, hsessionAgain, width', height', hlistAgain⟩ :=
      Host.round (h := after) (v := w) (by rw [hafter]; exact hstandard) hlist hkeys
        (by rw [hafter]; exact hcurrent.ns_eq) fun event hmem => (hagain event hmem).1
    have hids : q.visibleIds = p.visibleIds :=
      ColumnPicker.visibleIds_again hrows hnamespace hrowsAgain rfl rfl
        (hchecked fun event hmem => (hagain event hmem).2) hcolumns hothers
    have hstore : after.session.columns.pick v.kind.name v.kind.columns p.visibleIds =
        after.session.columns := by
      rw [hafter]
      exact ColumnStore.pick_pick _ _ _ _
    rw [hids, show w.kind = v.kind from rfl, hstore] at hsessionAgain hlistAgain
    rw [hids] at hsentAgain
    refine ⟨hsentAgain, hsessionAgain, _, hlistAgain, ?_⟩
    rw [hafter]
    rfl

/-- In the scope of all namespaces a label of cron jobs is chosen and their status is
not; on the way a choice is taken back, and the screen becomes smaller. -/
theorem chosen_columns_shown_label :
    let session : Session := { Session.ofRegistry .standard .empty with ns := .all }
    let h := (Host.ofKind session .cronJob).run [.resize 100 30]
    let boxed := (h.step (.key ⟨"c"⟩)).1.run
      [.key ⟨" "⟩, .key ⟨"r"⟩, .key ⟨"j"⟩, .key ⟨" "⟩, .resize 100 9, .key ⟨"j"⟩, .key ⟨"j"⟩,
       .key ⟨"j"⟩, .key ⟨"j"⟩, .key ⟨"j"⟩, .key ⟨" "⟩]
    let committed := boxed.step (.key ⟨"enter"⟩)
    let ids := ["name", "ready", "restarts", "age", "images", "label:app"]
    let after := (committed.1.step (.message (.picked Kind.cronJob.name ids))).1
    committed.2 = some (.emit (.picked Kind.cronJob.name ids)) ∧
    ∃ w, after.top = .list w ∧ w.columns.map (·.id) = "namespace" :: ids := by
  intro session h boxed committed ids after
  let v : ListView := (ListView.ofKind session .cronJob).setSize 100 26
  have hsent : committed.2 = some (.emit (.picked Kind.cronJob.name ids)) := by
    decide +kernel
  have hopen : ∀ event ∈ [Event.key ⟨" "⟩, .key ⟨"r"⟩, .key ⟨"j"⟩, .key ⟨" "⟩, .resize 100 9,
      .key ⟨"j"⟩, .key ⟨"j"⟩, .key ⟨"j"⟩, .key ⟨"j"⟩, .key ⟨"j"⟩, .key ⟨" "⟩],
      event.LeavesOpen := by
    simp [Event.LeavesOpen.size, Event.LeavesOpen.key]
  have hknown : Registry.standard.Knows .cronJob := .listed (by simp [Registry.standard])
  have hpool := poolInOrder_of_knows hknown
  have hnamespace : ColumnPicker.namespaceId ∉ Kind.cronJob.columns.map (·.id) := by
    decide +kernel
  have hitems : ∀ item ∈ v.items, "" ∉ item.labels.keys := by
    decide +kernel
  obtain ⟨p, -, hrows, hsame, hshown⟩ := chosen_columns_shown session .cronJob
    [.resize 100 30] v _ rfl rfl rfl hopen hpool.nodup hnamespace hpool.not_label hitems
  have hids : p.visibleIds = ids := by
    have hmessage := hsame.symm.trans hsent
    simp only [Option.some.injEq, Effect.emit.injEq, Message.picked.injEq] at hmessage
    exact hmessage.2
  refine ⟨hsent, ?_⟩
  rw [hids, show v.kind = .cronJob from rfl] at hshown
  obtain ⟨w, others, hlist, -, hcolumns, hothers, -⟩ := hshown
  refine ⟨w, hlist, ?_⟩
  have hall : after.session.ns.isAll && Kind.cronJob.namespaced := by
    decide +kernel
  have hchecked := ColumnPicker.filter_visibleIds hrows hnamespace
  rw [hids] at hchecked
  rw [hcolumns, if_pos hall, List.singleton_append, List.map_cons, List.map_cons,
    ColumnStore.id_nameColumn, hothers, ← hchecked]
  decide

end ClusterNav
