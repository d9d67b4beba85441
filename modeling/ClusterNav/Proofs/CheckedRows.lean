import ClusterNav.Proofs.CommittedColumns
import ClusterNav.Proofs.StoredColumns

/-!
# The checked rows of a box for columns

A box sends the name and the ids of its other checked rows, in the order of the rows.
The store keeps all of them, and what it shows then is the name column and the columns
of these rows.  A box that is opened on the columns shown has the same rows checked, so
it sends the same ids again, and they are stored as they were.

**Results.**
* `ColumnPicker.visibleIds_eq`: the ids that a box sends.
* `ColumnPicker.map_id_checkedRows`: the ids of the checked rows that are not locked.
* `ColumnStore.get_pick`: what is shown of a choice that was taken over.
* `ColumnStore.pick_pick`: to take a choice over again changes nothing.
-/

namespace ClusterNav

/-! ## Rows -/

namespace ColumnPicker

variable {p q : ColumnPicker} {choice : ColumnChoice}

/-- The row of the namespace column. -/
def namespaceRow : PickerRow :=
  .column { id := namespaceId, title := "NAMESPACE", locked := true }

/-- The row of a column of the pool. -/
def poolRow (c : Column) : PickerRow :=
  .column { id := c.id, title := c.name, locked := c.id == ColumnStore.nameId }

/-- The row of a label. -/
def labelRow (key : String) : PickerRow :=
  .column { id := Item.labelId key, title := key }

/-- What is read off the rows by their ids is a part of what the box offers. -/
theorem filterMap_rowsOf
    {f : PickerRow → Option String} {chosen : String → Bool}
    (hheading : ∀ title, f (.heading title) = none)
    (hnamespace : f namespaceRow = none)
    (hpool : ∀ c ∈ choice.pool, f (poolRow c) = Option.guard chosen c.id)
    (hlabel : ∀ key, f (labelRow key) = Option.guard chosen (Item.labelId key)) :
    (rowsOf choice).filterMap f = (offered choice).filter chosen := by
  have hlocked : (if choice.lockNamespace then [namespaceRow] else []).filterMap f = [] := by
    split <;> simp [hnamespace]
  have hlabels : (if choice.labels.isEmpty then []
      else .heading "Labels" :: choice.labels.map labelRow).filterMap f =
        choice.labels.filterMap (f ∘ labelRow) := by
    cases choice.labels with
    | nil =>
        rfl
    | cons key rest =>
        rw [List.isEmpty_cons, if_neg (by decide), List.filterMap_cons_none (hheading _),
          List.filterMap_map]
  have hrows : rowsOf choice =
      .heading "Columns" ::
        ((if choice.lockNamespace then [namespaceRow] else []) ++ choice.pool.map poolRow) ++
      (if choice.labels.isEmpty then []
        else .heading "Labels" :: choice.labels.map labelRow) := by
    rfl
  rw [hrows, List.filterMap_append, List.filterMap_cons_none (hheading _), List.filterMap_append,
    hlocked, hlabels, List.nil_append, List.filterMap_map, ← List.filterMap_eq_filter, offered,
    List.filterMap_append, List.filterMap_map, List.filterMap_map]
  congr 1
  · exact List.filterMap_congr hpool
  · exact List.filterMap_congr fun key _ => hlabel key

/-- Only ids of labels begin like one. -/
theorem labelId_ne
    {key id : String}
    (hid : id.toList.take 6 ≠ "label:".toList) :
    Item.labelId key ≠ id := by
  rintro rfl
  exact hid (toList_labelId key)

/-- The namespace column is not among what a box offers. -/
theorem ne_namespaceId
    (hns : namespaceId ∉ choice.pool.map (·.id))
    {id : String}
    (hid : id ∈ offered choice) :
    id ≠ namespaceId := by
  rcases List.mem_append.mp hid with hpool | hlabels
  · rintro rfl
    exact hns hpool
  · obtain ⟨key, -, rfl⟩ := List.mem_map.mp hlabels
    exact labelId_ne (by decide)

/-- A box sends the name and what is checked, in the order of its rows. -/
theorem visibleIds_eq
    (hrows : p.rows = rowsOf choice)
    (hns : namespaceId ∉ choice.pool.map (·.id)) :
    p.visibleIds =
      (offered choice).filter fun id => id == ColumnStore.nameId || p.checked.contains id := by
  rw [visibleIds, List.filter_filterMap, List.filterMap_filter, hrows]
  apply filterMap_rowsOf
  · intro title
    rfl
  · rfl
  · intro c hc
    have hother : c.id ≠ namespaceId := by
      intro hsame
      exact hns (List.mem_map.mpr ⟨c, hc, hsame⟩)
    simp [poolRow, PickerRow.isChecked, PickerRow.id?, Option.guard, Option.filter, hother]
  · intro key
    have hname : Item.labelId key ≠ ColumnStore.nameId := labelId_ne (by decide)
    have hother : Item.labelId key ≠ namespaceId := labelId_ne (by decide)
    simp [labelRow, PickerRow.isChecked, PickerRow.id?, Option.guard, Option.filter, hname, hother]

/-- The rows that are checked and need not be. -/
def checkedRows (p : ColumnPicker) : List ColumnRow :=
  (p.rows.filterMap PickerRow.free?).filter fun row => p.checked.contains row.id

theorem map_id_checkedRows
    (hrows : p.rows = rowsOf choice) :
    p.checkedRows.map (·.id) =
      (offered choice).filter fun id => id != ColumnStore.nameId && p.checked.contains id := by
  rw [checkedRows, List.filter_filterMap, List.map_filterMap, hrows]
  apply filterMap_rowsOf
  · intro title
    rfl
  · rfl
  · intro c _
    by_cases hname : c.id = ColumnStore.nameId <;> by_cases hchecked : c.id ∈ p.checked <;>
      simp [poolRow, PickerRow.free?, Option.guard, Option.filter, hname, hchecked]
  · intro key
    have hname : Item.labelId key ≠ ColumnStore.nameId := labelId_ne (by decide)
    by_cases hchecked : Item.labelId key ∈ p.checked <;>
      simp [labelRow, PickerRow.free?, Option.guard, Option.filter, hname, hchecked]

/-- Of what a box sends, all but the name are checked rows. -/
theorem filter_visibleIds
    (hrows : p.rows = rowsOf choice)
    (hns : namespaceId ∉ choice.pool.map (·.id)) :
    p.visibleIds.filter (· != ColumnStore.nameId) = p.checkedRows.map (·.id) := by
  rw [visibleIds_eq hrows hns, map_id_checkedRows hrows, List.filter_filter]
  apply List.filter_congr
  intro id _
  rw [bne, Bool.and_or_distrib_left, Bool.not_and_self, Bool.false_or]

/-- Two boxes that offer the same send the same, when one has checked what the other
sends. -/
theorem visibleIds_of_checked
    {again : ColumnChoice}
    (hrows : p.rows = rowsOf choice)
    (hagain : q.rows = rowsOf again)
    (hoffered : offered again = offered choice)
    (hns : namespaceId ∉ choice.pool.map (·.id))
    (hnsAgain : namespaceId ∉ again.pool.map (·.id))
    (hchecked : ∀ id ∈ offered choice, id ≠ ColumnStore.nameId →
      (id ∈ q.checked ↔ id ∈ p.visibleIds)) :
    q.visibleIds = p.visibleIds := by
  have hp := visibleIds_eq hrows hns
  rw [visibleIds_eq hagain hnsAgain, hoffered, hp]
  apply List.filter_congr
  intro id hid
  by_cases hname : id = ColumnStore.nameId
  · simp [hname]
  · have hsame := hchecked id hid hname
    have hother : (id == ColumnStore.nameId) = false := beq_eq_false_iff_ne.mpr hname
    rw [hp, List.mem_filter] at hsame
    simpa [hother, hid] using hsame

end ColumnPicker

/-! ## Choices that are taken over -/

namespace Dict

variable {α : Type}

theorem insert_insert (d : Dict α) (key : String) (value : α) :
    (d.insert key value).insert key value = d.insert key value := by
  have hinto (l : List (String × α)) :
      insertInto key value (insertInto key value l) = insertInto key value l := by
    induction l with
    | nil =>
        simp [insertInto]
    | cons first rest ih =>
        simp only [insertInto]
        split
        · simp [insertInto]
        split
        · simp [insertInto]
        · rename_i hne hnlt
          simp [insertInto, hne, hnlt, ih]
  exact congrArg Dict.mk (hinto d.entries)

theorem erase_erase (d : Dict α) (key : String) : (d.erase key).erase key = d.erase key := by
  rw [erase, erase, List.filter_filter]
  simp

end Dict

namespace ColumnStore

variable {pool : List Column} {ids : List String}

/-- To take a choice over again changes nothing. -/
theorem pick_pick (store : ColumnStore) (kind : String) (pool : List Column) (ids : List String) :
    (store.pick kind pool ids).pick kind pool ids = store.pick kind pool ids := by
  unfold pick
  split
  · exact congrArg ColumnStore.mk (Dict.erase_erase _ _)
  · exact congrArg ColumnStore.mk (Dict.insert_insert _ _ _)

theorem others_eq_filter
    (hids : ids.Nodup) :
    others ids = ids.filter (· != nameId) := by
  have hkept : distinctAfter [] (ids.filter (· != nameId)) = ids.filter (· != nameId) :=
    distinctAfter_of_nodup (hids.filter _) (by simp)
  rw [distinctAfter_eq] at hkept
  simpa [others] using hkept

/-- What is shown of a choice that was taken over, be it the default columns or not. -/
theorem get_pick
    (hpool : (pool.map (·.id)).Nodup)
    (hids : ids.Nodup)
    (store : ColumnStore) (kind : String) :
    (store.pick kind pool ids).get kind pool =
      nameColumn pool :: (ids.filter (· != nameId)).filterMap (resolve? pool) := by
  have hchoice := store.choice?_pick kind kind pool ids
  rw [if_pos rfl, stored] at hchoice
  split at hchoice
  · rename_i hdefault
    have hcolumns : ids.filter (· != nameId) =
        (pool.filter fun column => column.byDefault && column.id != nameId).map (·.id) := by
      rw [hdefault, defaultIds, List.filter_map, List.filter_filter]
      congr 2
      funext column
      exact Bool.and_comm _ _
    rw [get_of_choice?_eq_none hchoice hpool, hcolumns, filterMap_resolve?_map_id]
    intro column hmem
    exact (resolve?_eq_some_iff hpool).mpr (.pooled (List.mem_of_mem_filter hmem))
  · rw [get_of_choice?_eq_some hchoice, others_eq_filter hids]

/-- What is shown of a choice that was taken over, column by column. -/
theorem mem_get_pick_iff
    (hpool : (pool.map (·.id)).Nodup)
    (hids : ids.Nodup)
    (store : ColumnStore) (kind : String) {c : Column} :
    c ∈ (store.pick kind pool ids).get kind pool ↔
      c = nameColumn pool ∨ c.id ∈ ids ∧ resolve? pool c.id = some c := by
  rw [get_pick hpool hids, List.mem_cons, List.mem_filterMap]
  constructor
  · rintro (hname | ⟨id, hid, hfound⟩)
    · exact Or.inl hname
    · obtain rfl := id_of_resolve? hfound
      exact Or.inr ⟨List.mem_of_mem_filter hid, hfound⟩
  · rintro (hname | ⟨hid, hfound⟩)
    · exact Or.inl hname
    by_cases hname : c.id = nameId
    · rw [hname] at hfound
      exact Or.inl (eq_nameColumn_of_resolve? hfound)
    · exact Or.inr ⟨c.id, List.mem_filter.mpr ⟨hid, bne_iff_ne.mpr hname⟩, hfound⟩

/-- The store holds a choice unless it is that of the default columns. -/
theorem isCustom_pick (store : ColumnStore) (kind : String) :
    (store.pick kind pool ids).isCustom kind = true ↔ ids ≠ defaultIds pool := by
  have hchoice := store.choice?_pick kind kind pool ids
  rw [if_pos rfl, stored] at hchoice
  change ((store.pick kind pool ids).choice? kind).isSome = true ↔ _
  rw [hchoice]
  split <;> simp_all

end ColumnStore
end ClusterNav
