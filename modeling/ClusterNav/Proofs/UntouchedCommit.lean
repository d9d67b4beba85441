import ClusterNav.Proofs.ChosenColumns
import ClusterNav.Proofs.ListWidth

/-!
# Choices committed as they were opened

A box for columns opens on the columns of a list, with rows for the columns of the kind
and for the labels of the items that are loaded.  It sends the checked rows.  A store
makes a column of every label, so the list may show a label that none of its items has.
The id of this column is among those that the box was opened on, but the box has no row
for it, and the column is lost when the choice is committed, though nothing was checked
or unchecked.

**Results.**
* `View.kept_held`: every list holds what some store said.
* `ListView.mem_columns_committed_iff`: what is left of the columns of a list.
* `untouched_commit_keeps_iff`: when a commit without a change keeps what is shown.
* `label_column_dropped`: a commit that does not.
-/

namespace ClusterNav

/-! ## Lists and boxes -/

/-- The ids of the columns that a list shows at its width. -/
def ListView.shownIds (v : ListView) : List String :=
  v.shownColumns.map (·.id)

theorem ListView.mem_shownIds_iff {v : ListView} {id : String} :
    id ∈ v.shownIds ↔
      ∃ c ∈ v.columns, (c.wideOnly = true → wideWidth ≤ v.width) ∧ c.id = id := by
  simp [shownIds, shownColumns, and_assoc, imp_iff_not_or]

/-- A list holds what some store said of its kind. -/
def View.Held (u : View) : Prop :=
  u.IfList fun v => ∃ store, v.UpToDate store

theorem View.kept_held : Kept .standard (fun _ => True) (fun u _ => u.Held) where
  hotkey _ := trivial
  root _ _ scope := (View.upToDate_rootOf _ _ scope).mono fun _ hv => ⟨_, hv⟩
  fits hu width height :=
    IfList.setSize hu (fun _ ⟨store, hv⟩ width height => ⟨store, hv.setSize width height⟩)
      width height
  answers _ _ event := (View.upToDate_respond _ _ event).mono fun _ hv => ⟨_, hv⟩
  opens _ _ _ := (View.upToDate_ofDestination _ _).mono fun _ hv => ⟨_, hv⟩
  replaces _ _ _ := (View.upToDate_ofDestination _ _).mono fun _ hv => ⟨_, hv⟩
  reaches _ _ _ := (View.upToDate_ofDestination _ _).mono fun _ hv => ⟨_, hv⟩

/-- No known kind has a column like that of the namespace. -/
theorem namespaceId_notMem_of_knows
    {kind : Kind}
    (h : Registry.standard.Knows kind) :
    ColumnPicker.namespaceId ∉ kind.columns.map (·.id) := by
  have htable : ∀ f ∈ Registry.standard.faces,
      ColumnPicker.namespaceId ∉ f.columns.map (·.id) := by
    decide +kernel
  exact htable _ h.face_mem

/-- A column that is found can be chosen, unless it is that of a label without a row. -/
theorem ColumnPicker.mem_offered_iff
    {choice : ColumnChoice} {c : Column}
    (hpool : PoolInOrder choice.pool)
    (hfound : ColumnStore.resolve? choice.pool c.id = some c) :
    c.id ∈ offered choice ↔ ∀ key, c.id = Item.labelId key → key ∈ choice.labels := by
  rw [ColumnStore.resolve?_eq_some_iff hpool.nodup] at hfound
  constructor
  · intro hid key hkey
    rw [hkey] at hid
    rcases List.mem_append.mp hid with hpooled | hlabels
    · exact absurd hpooled (hpool.not_label key)
    · obtain ⟨other, hother, hsame⟩ := List.mem_map.mp hlabels
      obtain rfl : other = key := labelId_inj.mp hsame
      exact hother
  · intro hkeys
    generalize c.id = id at hfound hkeys ⊢
    cases hfound with
    | pooled hmem =>
        exact List.mem_append_left _ (List.mem_map_of_mem hmem)
    | label _ _ =>
        exact List.mem_append_right _ (List.mem_map_of_mem (hkeys _ rfl))

namespace ListView

variable {v : ListView}

/-- Only the namespace column comes before the columns of the store. -/
theorem id_of_mem_first
    {c : Column}
    (hc : c ∈ if v.showsNamespace then [namespaceColumn] else []) :
    c.id = ColumnPicker.namespaceId := by
  split at hc
  · rw [List.mem_singleton.mp hc]
    rfl
  · cases hc

/-- Only columns of the pool and of labels are found by their ids. -/
theorem ne_namespaceId_of_resolve?
    {pool : List Column} {c : Column}
    (hpool : (pool.map (·.id)).Nodup)
    (hnamespace : ColumnPicker.namespaceId ∉ pool.map (·.id))
    (hfound : ColumnStore.resolve? pool c.id = some c) :
    c.id ≠ ColumnPicker.namespaceId := by
  rw [ColumnStore.resolve?_eq_some_iff hpool] at hfound
  intro hid
  rw [hid] at hfound
  generalize hother : ColumnPicker.namespaceId = id at hfound
  cases hfound with
  | pooled hmem =>
      exact hnamespace (hid ▸ List.mem_map_of_mem hmem)
  | label _ _ =>
      exact ColumnPicker.labelId_ne (by decide) hother.symm

/-- A list has no two columns of an id by which one of them is found. -/
theorem UpToDate.mem_of_id_mem
    {store : ColumnStore} {c : Column}
    (hv : v.UpToDate store)
    (hpool : (v.kind.columns.map (·.id)).Nodup)
    (hnamespace : ColumnPicker.namespaceId ∉ v.kind.columns.map (·.id))
    (hfound : ColumnStore.resolve? v.kind.columns c.id = some c)
    (hid : c.id ∈ v.columns.map (·.id)) :
    c ∈ v.columns := by
  obtain ⟨d, hd, hsame⟩ := List.mem_map.mp hid
  suffices hcolumn : d = c from hcolumn ▸ hd
  rw [hv.columns, List.mem_append] at hd
  rcases hd with hfirst | hget
  · exact absurd (hsame.symm.trans (id_of_mem_first hfirst))
      (ne_namespaceId_of_resolve? hpool hnamespace hfound)
  rcases ColumnStore.eq_or_resolve?_of_mem_get hpool hget with rfl | hother
  · rw [← hsame, ColumnStore.id_nameColumn] at hfound
    exact (ColumnStore.eq_nameColumn_of_resolve? hfound).symm
  · rw [hsame, hfound] at hother
    exact (Option.some.inj hother).symm

theorem UpToDate.nameColumn_mem
    {store : ColumnStore}
    (hv : v.UpToDate store)
    (hpool : (v.kind.columns.map (·.id)).Nodup) :
    ColumnStore.nameColumn v.kind.columns ∈ v.columns := by
  rw [hv.columns]
  exact List.mem_append_right _ (ColumnStore.nameColumn_mem_get hpool store _)

/-! ## What is left -/

section Untouched

variable {p : ColumnPicker} {held : ColumnStore} {c : Column}
  (hrows : p.rows = ColumnPicker.rowsOf v.columnChoice)
  (hchecked : p.checked = v.columns.map (·.id))
  (hpool : PoolInOrder v.kind.columns)
  (hnamespace : ColumnPicker.namespaceId ∉ v.kind.columns.map (·.id))
  (hheld : v.UpToDate held)
include hrows hchecked hpool hnamespace hheld

/-- An untouched box sends the columns of its list that can be chosen. -/
theorem id_mem_visibleIds_iff
    (hfound : ColumnStore.resolve? v.kind.columns c.id = some c) :
    c.id ∈ p.visibleIds ↔
      c ∈ v.columns ∧ ∀ key, c.id = Item.labelId key → key ∈ v.labelKeys := by
  have hoffered : c.id ∈ ColumnPicker.offered v.columnChoice ↔
      ∀ key, c.id = Item.labelId key → key ∈ v.labelKeys :=
    ColumnPicker.mem_offered_iff hpool hfound
  rw [ColumnPicker.visibleIds_eq hrows hnamespace, List.mem_filter, hoffered, hchecked, and_comm,
    Bool.or_eq_true, beq_iff_eq, List.contains_iff_mem]
  apply and_congr_left
  intro _
  constructor
  · rintro (hname | hid)
    · rw [hname] at hfound
      rw [ColumnStore.eq_nameColumn_of_resolve? hfound]
      exact hheld.nameColumn_mem hpool.nodup
    · exact hheld.mem_of_id_mem hpool.nodup hnamespace hfound hid
  · exact fun hc => Or.inr (List.mem_map_of_mem hc)

/-- When the choice of an untouched box was taken over, the list has the same columns as
before but those of labels that no item has. -/
theorem mem_columns_committed_iff (store : ColumnStore) :
    c ∈ (v.refreshColumns (store.pick v.kind.name v.kind.columns p.visibleIds)).columns ↔
      c ∈ v.columns ∧ ∀ key, c.id = Item.labelId key → key ∈ v.labelKeys := by
  have hnodup : p.visibleIds.Nodup :=
    (ColumnPicker.listed_visibleIds hrows hpool v.nodup_labelKeys).nodup
  have hafter := (upToDate_refreshColumns v
    (store.pick v.kind.name v.kind.columns p.visibleIds)).columns
  rw [hafter, List.mem_append]
  change (c ∈ if v.showsNamespace then _ else _) ∨
    c ∈ ColumnStore.get _ v.kind.name v.kind.columns ↔ _
  rw [ColumnStore.mem_get_pick_iff hpool.nodup hnodup]
  constructor
  · rintro (hfirst | rfl | ⟨hsent, hfound⟩)
    · refine ⟨hheld.columns ▸ List.mem_append_left _ hfirst, ?_⟩
      intro key hkey
      exact absurd (hkey.symm.trans (id_of_mem_first hfirst)) (ColumnPicker.labelId_ne (by decide))
    · refine ⟨hheld.nameColumn_mem hpool.nodup, ?_⟩
      intro key hkey
      rw [ColumnStore.id_nameColumn] at hkey
      exact absurd hkey.symm (ColumnPicker.labelId_ne (by decide))
    · exact (id_mem_visibleIds_iff hrows hchecked hpool hnamespace hheld hfound).mp hsent
  · rintro ⟨hc, hkeys⟩
    have hplace := hc
    rw [hheld.columns, List.mem_append] at hplace
    rcases hplace with hfirst | hget
    · exact Or.inl hfirst
    rcases ColumnStore.eq_or_resolve?_of_mem_get hpool.nodup hget with hcolumn | hfound
    · exact Or.inr (Or.inl hcolumn)
    · have hsent := (id_mem_visibleIds_iff hrows hchecked hpool hnamespace hheld hfound).mpr
        ⟨hc, hkeys⟩
      exact Or.inr (Or.inr ⟨hsent, hfound⟩)

end Untouched

/-- Of two lists with these columns, at one width, the second one shows the same when
nothing of a label is missing. -/
theorem shownIds_iff
    {w : ListView} {kept : String → Prop}
    (hwidth : w.width = v.width)
    (hcolumns : ∀ c, c ∈ w.columns ↔ c ∈ v.columns ∧ ∀ key, c.id = Item.labelId key → kept key) :
    (∀ id, id ∈ w.shownIds ↔ id ∈ v.shownIds) ↔
      ∀ key, Item.labelId key ∈ v.shownIds → kept key := by
  simp only [mem_shownIds_iff, hwidth]
  constructor
  · intro hsame key hshown
    obtain ⟨c, hc, -, hid⟩ := (hsame _).mpr hshown
    exact ((hcolumns c).mp hc).2 key hid
  · intro hkept id
    constructor
    · rintro ⟨c, hc, hwide, hid⟩
      exact ⟨c, ((hcolumns c).mp hc).1, hwide, hid⟩
    · rintro ⟨c, hc, hwide, hid⟩
      refine ⟨c, (hcolumns c).mpr ⟨hc, ?_⟩, hwide, hid⟩
      intro key hkey
      exact hkept key ⟨c, hc, hwide, hkey⟩

end ListView

/-- In all runs: on a list that takes keys, the key for columns opens a box, and the
choice is committed with nothing checked or unchecked, whatever other keys are pressed
before and while the screen gets any sizes.  When the choice that is sent then reaches the
list, the list has the same columns as before but those of labels that none of its items
has.  So, at the width that it has then and which changes only with the screen, it shows
the same columns exactly when each label of which it showed the column is a label of one
of its items. -/
theorem untouched_commit_keeps_iff
    (session : Session) (start : Kind) (past : List Event) (v : ListView) (events : List Event)
    (hregistry : session.registry = .standard)
    (hstart : Registry.standard.Knows start)
    (htop : ((Host.ofKind session start).run past).top = .list v)
    (hkeys : v.takesAllKeys = false)
    (hopen : ∀ event ∈ events, event.LeavesOpen ∧ event.toggles = false) :
    let h := (Host.ofKind session start).run past
    let boxed := (h.step (.key ⟨"c"⟩)).1.run events
    let committed := boxed.step (.key ⟨"enter"⟩)
    ∃ p, boxed.top = .columns p ∧
      committed.2 = some (.emit (.picked v.kind.name p.visibleIds)) ∧
      let after := (committed.1.step (.message (.picked v.kind.name p.visibleIds))).1
      ∃ w, after.top = .list w ∧ w.kind = v.kind ∧
        (∀ c, c ∈ w.columns ↔
          c ∈ v.columns ∧
          ∀ key, c.id = Item.labelId key → ∃ item ∈ v.items, key ∈ item.labels.keys) ∧
        ((∀ event ∈ events, ∀ width height, event ≠ .resize width height) →
          w.width = v.width) ∧
        let before := { v with width := w.width }
        ((∀ id, id ∈ w.shownIds ↔ id ∈ before.shownIds) ↔
          ∀ key, Item.labelId key ∈ before.shownIds →
            ∃ item ∈ v.items, key ∈ item.labels.keys) := by
  intro h boxed committed
  have hstandard : h.session.registry = .standard :=
    (Host.registry_run _ past).trans hregistry
  have hcurrent : v.Current h.session :=
    Host.current_run session start past _ h.top_mem_views v htop
  have hknown : Registry.standard.Knows v.kind := by
    have hknows := Host.knows_run (by rw [hregistry]; exact hstart) htop
    rwa [hregistry] at hknows
  obtain ⟨held, hheld⟩ : ∃ store, v.UpToDate store :=
    (Host.holds_run View.kept_held hregistry trivial past).top v htop
  obtain ⟨p, hboxed, hrows, hchecked, hsent, -, width, height, hlist⟩ :=
    Host.round hstandard htop hkeys hcurrent.ns_eq fun event hmem => (hopen event hmem).1
  have hcolumns (c : Column) := ListView.mem_columns_committed_iff (c := c) hrows
    (hchecked fun event hmem => (hopen event hmem).2) (poolInOrder_of_knows hknown)
    (namespaceId_notMem_of_knows hknown) hheld h.session.columns
  simp only [ListView.mem_labelKeys_iff] at hcolumns
  refine ⟨p, hboxed, hsent, _, hlist, rfl, hcolumns, ?_, ListView.shownIds_iff rfl hcolumns⟩
  intro hsize
  let round : List Event :=
    .key ⟨"c"⟩ :: (events ++ [.key ⟨"enter"⟩, .message (.picked v.kind.name p.visibleIds)])
  have hround : ∀ event ∈ round, ∀ width height, event ≠ .resize width height := by
    intro event hmem
    simp only [round, List.mem_cons, List.mem_append, List.not_mem_nil, or_false] at hmem
    rcases hmem with rfl | hmem | rfl | rfl
    · simp
    · exact hsize event hmem
    · simp
    · simp
  have hlast : (h.run round).top = .list ((v.setSize width height).refreshColumns
      (h.session.columns.pick v.kind.name v.kind.columns p.visibleIds)) := by
    rw [Host.run, Host.run_append]
    exact hlist
  exact (Host.wide_run session start past).width_run htop hlast hround

/-- The store has the labels of stateful sets shown, and on the way keys move the cursor
and take the choice back.  The set in the namespace has the label, so it stays. -/
theorem untouched_commit_keeps_iff_labelled :
    let store := ColumnStore.empty.set "statefulsets" ["name", "ready", "label:app"]
    let h := (Host.ofKind (.ofRegistry .standard store) .statefulSet).run [.resize 100 30]
    let boxed := (h.step (.key ⟨"c"⟩)).1.run [.key ⟨"j"⟩, .key ⟨"r"⟩]
    let committed := boxed.step (.key ⟨"enter"⟩)
    let ids := ["name", "ready", "label:app"]
    let after := (committed.1.step (.message (.picked "statefulsets" ids))).1
    committed.2 = some (.emit (.picked "statefulsets" ids)) ∧
    ∃ w, after.top = .list w ∧ ∀ id, id ∈ w.shownIds ↔ id ∈ ids := by
  intro store h boxed committed ids after
  let session : Session := .ofRegistry .standard store
  let v : ListView := (ListView.ofKind session .statefulSet).setSize 100 26
  have hsent : committed.2 = some (.emit (.picked "statefulsets" ids)) := by
    decide +kernel
  have hopen : ∀ event ∈ [Event.key ⟨"j"⟩, .key ⟨"r"⟩],
      event.LeavesOpen ∧ event.toggles = false := by
    simp [Event.LeavesOpen.key, Event.toggles, Key.isSpace]
  have hknown : Registry.standard.Knows .statefulSet := .listed (by simp [Registry.standard])
  obtain ⟨p, -, hsame, w, hlist, -, -, hwidth, hshown⟩ :=
    untouched_commit_keeps_iff session .statefulSet [.resize 100 30] v
      [.key ⟨"j"⟩, .key ⟨"r"⟩] rfl hknown rfl rfl hopen
  have hids : p.visibleIds = ids := by
    have hmessage := hsame.symm.trans hsent
    simp only [Option.some.injEq, Effect.emit.injEq, Message.picked.injEq] at hmessage
    exact hmessage.2
  have hbefore : v.shownIds = ids := by
    decide +kernel
  have hsized : ({ v with width := w.width } : ListView) = v := by
    rw [hwidth (by simp)]
  rw [hids] at hlist
  simp only [hsized, hbefore] at hshown
  refine ⟨hsent, w, hlist, hshown.mpr ?_⟩
  intro key hkey
  have hlabel : key = "app" := by
    have hname : Item.labelId key ≠ "name" := ColumnPicker.labelId_ne (by decide)
    have hready : Item.labelId key ≠ "ready" := ColumnPicker.labelId_ne (by decide)
    simp only [ids, List.mem_cons, List.not_mem_nil, hname, hready, false_or, or_false] at hkey
    exact labelId_inj.mp hkey
  subst hlabel
  decide +kernel

/-- The store has the labels of stateful sets shown, and the namespace has no stateful
sets.  The list shows the column, the box is committed at once, and then the list does
not show it. -/
theorem label_column_dropped :
    let store := ColumnStore.empty.set "statefulsets" ["name", "ready", "label:app"]
    let session : Session :=
      { Session.ofRegistry .standard store with ns := .named "kube-system" }
    let h := (Host.ofKind session .statefulSet).run [.resize 100 30]
    let committed := (h.step (.key ⟨"c"⟩)).1.step (.key ⟨"enter"⟩)
    let after := (committed.1.step (.message (.picked "statefulsets" ["name", "ready"]))).1
    committed.2 = some (.emit (.picked "statefulsets" ["name", "ready"])) ∧
    h.top.list?.map ListView.shownIds = some ["name", "ready", "label:app"] ∧
    after.top.list?.map ListView.shownIds = some ["name", "ready"] := by
  decide +kernel

end ClusterNav
