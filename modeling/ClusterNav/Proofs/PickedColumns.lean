import ClusterNav.Proofs.KnownKinds
import Mathlib.Data.List.Nodup

/-!
# What a box for columns sends

The box has a row for each column of the pool and for each label of the items, and
sends the ids of the rows that are checked, in their order.  The row of the name is
locked and comes first.  So what is sent has the name first and every id once, and it
is stored as it is.

**Results.**
* `Dict.nodup_keys_ofList`, `Dict.mem_keys_ofList`: a dictionary has each key of its
  entries once.
* `ColumnPicker.listed_visibleIds`: the form of the ids that a box sends.
* `ColumnStore.stored_eq`: what is stored of ids of this form.
-/

namespace ClusterNav

/-! ## Keys of dictionaries -/

namespace Dict

variable {α : Type}

theorem mem_insertInto
    {key : String} {value : α} {l : List (String × α)} {e : String × α}
    (h : e ∈ insertInto key value l) :
    e = (key, value) ∨ e ∈ l := by
  induction l with
  | nil =>
      exact Or.inl (List.mem_singleton.mp h)
  | cons first rest ih =>
      simp only [insertInto] at h
      split at h
      · exact (List.mem_cons.mp h).imp_right (List.mem_cons_of_mem _)
      split at h
      · exact List.mem_cons.mp h
      · rcases List.mem_cons.mp h with rfl | hrest
        · exact Or.inr List.mem_cons_self
        · exact (ih hrest).imp_right (List.mem_cons_of_mem _)

/-- Entries in the order of their keys, each key once. -/
def Sorted (l : List (String × α)) : Prop :=
  l.Pairwise fun a b => a.1 < b.1

theorem sorted_insertInto
    {l : List (String × α)}
    (h : Sorted l)
    (key : String) (value : α) :
    Sorted (insertInto key value l) := by
  induction l with
  | nil =>
      exact List.pairwise_singleton _ _
  | cons first rest ih =>
      obtain ⟨hfirst, hrest⟩ := List.pairwise_cons.mp h
      simp only [insertInto]
      split
      · rename_i hsame
        refine List.pairwise_cons.mpr ⟨?_, hrest⟩
        rw [← hsame]
        exact hfirst
      split
      · rename_i hlt
        refine List.pairwise_cons.mpr ⟨?_, h⟩
        intro e he
        rcases List.mem_cons.mp he with rfl | he
        · exact hlt
        · exact String.lt_trans hlt (hfirst e he)
      · rename_i hne hnlt
        refine List.pairwise_cons.mpr ⟨?_, ih hrest⟩
        intro e he
        rcases mem_insertInto he with rfl | he
        · exact Std.lt_of_le_of_ne (String.not_lt.mp hnlt) hne
        · exact hfirst e he

theorem sorted_ofList (entries : List (String × α)) : Sorted (ofList entries).entries := by
  suffices ∀ d : Dict α, Sorted d.entries →
      Sorted (entries.foldl (fun d e => d.insert e.1 e.2) d).entries from
    this empty List.Pairwise.nil
  induction entries with
  | nil =>
      exact fun d hd => hd
  | cons e rest ih =>
      exact fun d hd => ih _ (sorted_insertInto hd e.1 e.2)

/-- A dictionary has each key once. -/
theorem nodup_keys_ofList (entries : List (String × α)) : (ofList entries).keys.Nodup := by
  refine (List.pairwise_map.mpr (sorted_ofList entries)).imp ?_
  rintro a b hlt rfl
  exact String.lt_irrefl a hlt

theorem mem_keys_iff {d : Dict α} {key : String} :
    key ∈ d.keys ↔ (d.get? key).isSome = true := by
  simp [keys, get?]

theorem mem_keys_insert
    {d : Dict α} {key other : String} {value : α} :
    key ∈ (d.insert other value).keys ↔ key = other ∨ key ∈ d.keys := by
  rw [mem_keys_iff, get?_insert, mem_keys_iff]
  by_cases hkey : other = key
  · simp [hkey]
  · simp [hkey, Ne.symm hkey]

/-- A dictionary has the keys of the entries it was made of, and no others. -/
theorem mem_keys_ofList
    {entries : List (String × α)} {key : String} :
    key ∈ (ofList entries).keys ↔ key ∈ entries.map (·.1) := by
  suffices ∀ d : Dict α, key ∈ (entries.foldl (fun d e => d.insert e.1 e.2) d).keys ↔
      key ∈ d.keys ∨ key ∈ entries.map (·.1) from
    (this empty).trans (or_iff_right List.not_mem_nil)
  induction entries with
  | nil =>
      exact fun d => (or_iff_left List.not_mem_nil).symm
  | cons e rest ih =>
      intro d
      rw [List.foldl_cons, ih, mem_keys_insert, List.map_cons, List.mem_cons]
      tauto

end Dict

/-! ## The columns of a pool -/

/-- The columns of a pool have different ids, the first is the name, and none has the
id of a label. -/
structure PoolInOrder (pool : List Column) : Prop where
  name_first : (pool.map (·.id)).head? = some ColumnStore.nameId
  nodup : (pool.map (·.id)).Nodup
  not_label : ∀ key, Item.labelId key ∉ pool.map (·.id)

theorem toList_labelId (key : String) :
    (Item.labelId key).toList.take 6 = "label:".toList := by
  rw [Item.labelId, String.toList_append]
  rfl

theorem labelId_inj {key other : String} : Item.labelId key = Item.labelId other ↔ key = other :=
  String.append_right_inj _

/-- The columns of all kinds that lists can be made of are in order. -/
theorem poolInOrder_of_knows
    {kind : Kind}
    (h : Registry.standard.Knows kind) :
    PoolInOrder kind.columns := by
  have htable : ∀ f ∈ Registry.standard.faces,
      (f.columns.map (·.id)).head? = some ColumnStore.nameId ∧
      (f.columns.map (·.id)).Nodup ∧
      ∀ id ∈ f.columns.map (·.id), id.toList.take 6 ≠ "label:".toList := by
    decide +kernel
  obtain ⟨hfirst, hnodup, hlabel⟩ := htable _ h.face_mem
  exact ⟨hfirst, hnodup, fun key hmem => hlabel _ hmem (toList_labelId key)⟩

/-! ## The ids that a box sends -/

/-- The name first, and each id once. -/
structure Listed (ids : List String) : Prop where
  name_first : ids.head? = some ColumnStore.nameId
  nodup : ids.Nodup

namespace ColumnPicker

variable {v : ColumnPicker} {choice : ColumnChoice}

/-- The ids that a box offers, in the order of its rows: those of the pool, then those
of labels. -/
def offered (choice : ColumnChoice) : List String :=
  choice.pool.map (·.id) ++ choice.labels.map Item.labelId

/-- The ids offered are different when those of the pool are and none is of a label. -/
theorem nodup_offered
    (hpool : (choice.pool.map (·.id)).Nodup)
    (hlabel : ∀ key, Item.labelId key ∉ choice.pool.map (·.id))
    (hlabels : choice.labels.Nodup) :
    (offered choice).Nodup := by
  refine List.nodup_append.mpr ⟨hpool, ?_, ?_⟩
  · refine List.Nodup.map ?_ hlabels
    intro a b hsame
    exact labelId_inj.mp hsame
  · rintro id hid other hother rfl
    obtain ⟨key, -, rfl⟩ := List.mem_map.mp hother
    exact hlabel key hid

theorem filterMap_id?_rowsOf (choice : ColumnChoice) :
    (rowsOf choice).filterMap PickerRow.id? =
      (if choice.lockNamespace then [namespaceId] else []) ++ offered choice := by
  unfold rowsOf offered
  cases choice.lockNamespace <;> cases choice.labels <;>
    simp [List.filterMap_cons, PickerRow.id?, Function.comp_def]

/-- The ids that a box sends are among the columns of the pool and the labels, in this
order. -/
theorem visibleIds_sublist
    (hrows : v.rows = rowsOf choice) :
    v.visibleIds.Sublist (offered choice) := by
  have hall : v.visibleIds.Sublist ((v.rows.filterMap PickerRow.id?).filter (· != namespaceId)) :=
    (List.filter_sublist.filterMap _).filter _
  rw [hrows, filterMap_id?_rowsOf, List.filter_append] at hall
  have hlocked :
      (if choice.lockNamespace then [namespaceId] else []).filter (· != namespaceId) = [] := by
    split <;> simp
  rw [hlocked, List.nil_append] at hall
  exact hall.trans List.filter_sublist

/-- The row of the name is checked whatever is chosen. -/
theorem head?_visibleIds
    (hrows : v.rows = rowsOf choice)
    (hpool : PoolInOrder choice.pool) :
    v.visibleIds.head? = some ColumnStore.nameId := by
  have hfirst := hpool.name_first
  cases hchoice : choice.pool with
  | nil =>
      simp [hchoice] at hfirst
  | cons c rest =>
      simp only [hchoice, List.map_cons, List.head?_cons, Option.some.injEq] at hfirst
      rw [visibleIds, hrows, rowsOf, hchoice]
      cases choice.lockNamespace <;>
        simp [PickerRow.isChecked, PickerRow.id?, hfirst, ColumnStore.nameId, namespaceId]

theorem listed_visibleIds
    (hrows : v.rows = rowsOf choice)
    (hpool : PoolInOrder choice.pool)
    (hlabels : choice.labels.Nodup) :
    Listed v.visibleIds where
  name_first := head?_visibleIds hrows hpool
  nodup := (nodup_offered hpool.nodup hpool.not_label hlabels).sublist (visibleIds_sublist hrows)

end ColumnPicker

namespace ListView

variable (v : ListView)

/-- The labels that a list offers for columns are all different. -/
theorem nodup_labelKeys : v.labelKeys.Nodup :=
  Dict.nodup_keys_ofList _

/-- A list offers the labels of its items. -/
theorem mem_labelKeys_iff {key : String} :
    key ∈ v.labelKeys ↔ ∃ item ∈ v.items, key ∈ item.labels.keys := by
  rw [labelKeys, Dict.mem_keys_ofList, List.map_map, List.mem_map]
  simp

end ListView

/-! ## What is stored -/

namespace ColumnStore

/-- Ids that were not seen, each once, are all kept. -/
theorem distinctAfter_of_nodup
    {seen ids : List String}
    (hnodup : ids.Nodup)
    (hseen : ∀ id ∈ ids, id ∉ seen) :
    distinctAfter seen ids = ids := by
  induction ids generalizing seen with
  | nil =>
      rfl
  | cons id rest ih =>
      obtain ⟨hid, hrest⟩ := List.nodup_cons.mp hnodup
      have hnew : ∀ other ∈ rest, other ∉ id :: seen := by
        rintro other hother hmem
        rcases List.mem_cons.mp hmem with rfl | hmem
        · exact hid hother
        · exact hseen other (List.mem_cons_of_mem _ hother) hmem
      simp [distinctAfter, hseen id List.mem_cons_self, ih hrest hnew]

/-- After the name, ids that differ from it and from each other are all kept. -/
theorem distinctAfter_name
    {rest : List String}
    (h : (nameId :: rest).Nodup) :
    distinctAfter [nameId] (nameId :: rest) = rest := by
  obtain ⟨hname, hrest⟩ := List.nodup_cons.mp h
  have hseen : ∀ id ∈ rest, id ∉ [nameId] := by
    intro id hid hmem
    rw [List.mem_singleton.mp hmem] at hid
    exact hname hid
  rw [distinctAfter, distinctAfter_of_nodup hrest hseen]
  simp

/-- Ids with the name first, each once, are stored as they are. -/
theorem stored_eq
    {ids : List String}
    (h : Listed ids)
    (pool : List Column) :
    stored pool ids = if ids = defaultIds pool then none else some ids := by
  obtain ⟨rest, rfl⟩ := List.head?_eq_some_iff.mp h.name_first
  rw [stored, distinctAfter_name h.nodup]

end ColumnStore
end ClusterNav
