import ClusterNav.Config
import ClusterNav.Proofs.PickedColumns
import Mathlib.Data.List.Induction

/-!
# What a store of columns shows

A store is filled by choices, by taking them back, and by configurations, which are
choices for several kinds at once.  What it shows of a kind is settled by the last
operation that was about this kind.  A choice is read in one way, whatever is written
in it: the name column comes first, then the column of each other id, once, in the
order in which the ids come first; an id without a column is passed over.

**Results.**
* `ColumnStore.choice?_performAll`: what a store holds after any operations.
* `ColumnStore.resolve?_eq_some_iff`: which column an id stands for.
* `ColumnStore.get_of_choice?_eq_some`, `ColumnStore.get_of_choice?_eq_none`: what is
  shown of a choice, and without one.
* `columns_of_last_operation`: what a kind shows after any operations.
-/

namespace ClusterNav
namespace ColumnStore

/-! ## Operations -/

/-- What can be done to a store. -/
inductive Operation
  | set (kind : String) (ids : List String)
  | reset (kind : String)
  | seed (config : Config)

def perform (store : ColumnStore) : Operation → ColumnStore
  | .set kind ids => store.set kind ids
  | .reset kind => store.reset kind
  | .seed config => config.seedColumns store

def performAll (store : ColumnStore) (operations : List Operation) : ColumnStore :=
  operations.foldl perform store

/-- What an operation says about a kind, if it says anything: the ids that are chosen, or
that nothing is chosen.  Of the entries of a configuration the last counts. -/
def Operation.about? (kind : String) : Operation → Option (Option (List String))
  | .set other ids => if other = kind then some (some ids) else none
  | .reset other => if other = kind then some none else none
  | .seed config => (config.columns.entries.reverse.find? (·.1 = kind)).map fun e => some e.2

/-- What the last operation on a kind says about it. -/
def lastAbout? (kind : String) (operations : List Operation) : Option (Option (List String)) :=
  operations.reverse.findSome? (Operation.about? kind)

/-- What is kept of chosen ids: the name column, then the other ids, each once. -/
def kept (ids : List String) : List String :=
  nameId :: distinctAfter [nameId] ids

/-- What a store holds for a kind that held something and was then told something. -/
def heldAfter (held : Option (List String)) : Option (Option (List String)) → Option (List String)
  | none => held
  | some said => said.map kept

theorem choice?_set (store : ColumnStore) (kind other : String) (ids : List String) :
    (store.set kind ids).choice? other =
      if kind = other then some (kept ids) else store.choice? other :=
  Dict.get?_insert _ _ _ _

theorem choice?_reset (store : ColumnStore) (kind other : String) :
    (store.reset kind).choice? other = if kind = other then none else store.choice? other :=
  Dict.get?_erase _ _ _

/-- Of several choices for a kind the last is held. -/
theorem choice?_foldl_set
    (store : ColumnStore) (kind : String) (entries : List (String × List String)) :
    (entries.foldl (fun s e => s.set e.1 e.2) store).choice? kind =
      heldAfter (store.choice? kind)
        ((entries.reverse.find? (·.1 = kind)).map fun e => some e.2) := by
  induction entries using List.reverseRecOn with
  | nil =>
      rfl
  | append_singleton rest e ih =>
      rw [List.foldl_append, List.foldl_cons, List.foldl_nil, choice?_set, ih,
        List.reverse_append, List.reverse_singleton, List.singleton_append, List.find?_cons]
      by_cases he : e.1 = kind <;> simp [he, heldAfter]

theorem choice?_perform (store : ColumnStore) (operation : Operation) (kind : String) :
    (store.perform operation).choice? kind =
      heldAfter (store.choice? kind) (operation.about? kind) := by
  cases operation with
  | set other ids =>
      rw [perform, choice?_set, Operation.about?]
      split <;> rfl
  | reset other =>
      rw [perform, choice?_reset, Operation.about?]
      split <;> rfl
  | seed config =>
      exact store.choice?_foldl_set kind config.columns.entries

/-- What a store holds for a kind is what the last operation on the kind has left. -/
theorem choice?_performAll (store : ColumnStore) (operations : List Operation) (kind : String) :
    (store.performAll operations).choice? kind =
      heldAfter (store.choice? kind) (lastAbout? kind operations) := by
  induction operations using List.reverseRecOn with
  | nil =>
      rfl
  | append_singleton past operation ih =>
      have hrun : store.performAll (past ++ [operation]) =
          (store.performAll past).perform operation := by
        rw [performAll, List.foldl_append]
        rfl
      rw [hrun, choice?_perform, ih, lastAbout?, lastAbout?, List.reverse_append,
        List.reverse_singleton, List.singleton_append, List.findSome?_cons]
      cases operation.about? kind <;> rfl

/-! ## The columns of ids -/

/-- The column of an id: the column of the pool with this id or, when the pool has none,
the column of a label that is not empty. -/
inductive ColumnOf (pool : List Column) : String → Column → Prop
  | pooled {column : Column} (mem : column ∈ pool) : ColumnOf pool column.id column
  | label {key : String} (nonempty : key ≠ "") (missing : Item.labelId key ∉ pool.map (·.id)) :
      ColumnOf pool (Item.labelId key) (Column.label key)

theorem labelKey?_eq_some_iff {id key : String} :
    labelKey? id = some key ↔ id = Item.labelId key ∧ key ≠ "" := by
  have htext : (Item.labelId key).toList = (Item.labelId "").toList ++ key.toList := by
    rw [Item.labelId, Item.labelId, String.append_empty, String.toList_append]
  unfold labelKey?
  simp only [Bool.and_eq_true, List.isPrefixOf_iff_prefix, decide_eq_true_eq]
  constructor
  · intro h
    split at h
    · rename_i hlabel
      obtain ⟨hstarts, hlength⟩ := hlabel
      have hkey : key.toList = id.toList.drop (Item.labelId "").toList.length := by
        rw [← Option.some.inj h, String.toList_ofList]
      refine ⟨?_, ?_⟩
      · rw [← String.toList_inj, htext, hkey, List.prefix_iff_eq_append.mp hstarts]
      · rintro rfl
        have := congrArg List.length hkey
        rw [List.length_drop] at this
        simp at this
        omega
    · cases h
  · rintro ⟨rfl, hkey⟩
    have hlength : 0 < key.toList.length :=
      List.length_pos_iff.mpr fun h => hkey (String.toList_eq_nil_iff.mp h)
    rw [htext, if_pos ⟨List.prefix_append _ _, by rw [List.length_append]; omega⟩,
      List.drop_left, String.ofList_toList]

variable {pool : List Column}

theorem find?_eq_some_of_mem
    (hpool : (pool.map (·.id)).Nodup)
    {column : Column}
    (hmem : column ∈ pool) :
    pool.find? (·.id == column.id) = some column := by
  induction pool with
  | nil =>
      cases hmem
  | cons first rest ih =>
      obtain ⟨hfirst, hrest⟩ := List.nodup_cons.mp hpool
      rcases List.mem_cons.mp hmem with rfl | hmem
      · simp
      · have hne : first.id ≠ column.id := by
          intro hsame
          exact hfirst (List.mem_map.mpr ⟨column, hmem, hsame.symm⟩)
        rw [List.find?_cons_of_neg (by simpa using hne)]
        exact ih hrest hmem

theorem find?_id_eq_none_iff {id : String} :
    pool.find? (·.id == id) = none ↔ id ∉ pool.map (·.id) := by
  simp

theorem resolve?_eq_some_iff
    (hpool : (pool.map (·.id)).Nodup)
    {id : String} {column : Column} :
    resolve? pool id = some column ↔ ColumnOf pool id column := by
  unfold resolve?
  constructor
  · intro h
    split at h
    · rename_i found hfound
      cases h
      have hid : column.id = id := by
        simpa using List.find?_some hfound
      exact hid ▸ .pooled (List.mem_of_find?_eq_some hfound)
    · rename_i hmissing
      obtain ⟨key, hkey, rfl⟩ := Option.map_eq_some_iff.mp h
      obtain ⟨rfl, hnonempty⟩ := labelKey?_eq_some_iff.mp hkey
      exact .label hnonempty (find?_id_eq_none_iff.mp hmissing)
  · intro h
    cases h with
    | pooled hmem =>
        rw [find?_eq_some_of_mem hpool hmem]
    | @label key hnonempty hmissing =>
        rw [find?_id_eq_none_iff.mpr hmissing, labelKey?_eq_some_iff.mpr ⟨rfl, hnonempty⟩]
        rfl

/-- A column has the id it was found by. -/
theorem id_of_resolve?
    {id : String} {column : Column}
    (h : resolve? pool id = some column) :
    column.id = id := by
  unfold resolve? at h
  split at h
  · rename_i hfound
    cases h
    simpa using List.find?_some hfound
  · obtain ⟨key, hkey, rfl⟩ := Option.map_eq_some_iff.mp h
    exact (labelKey?_eq_some_iff.mp hkey).1.symm

/-- The ids of the columns found by ids are some of these ids, in their order. -/
theorem map_id_filterMap_resolve? (pool : List Column) (ids : List String) :
    (ids.filterMap (resolve? pool)).map (·.id) = ids.filter fun id => (resolve? pool id).isSome := by
  induction ids with
  | nil =>
      rfl
  | cons id rest ih =>
      cases hid : resolve? pool id with
      | none =>
          simp [hid, ih]
      | some column =>
          simp [hid, ih, id_of_resolve? hid]

/-- Columns are found again by their ids. -/
theorem filterMap_resolve?_map_id
    {columns : List Column}
    (h : ∀ column ∈ columns, resolve? pool column.id = some column) :
    (columns.map (·.id)).filterMap (resolve? pool) = columns := by
  rw [List.filterMap_map]
  exact (List.filterMap_congr h).trans List.filterMap_some

/-! ## What is shown -/

/-- The name column: that of the pool, or one made for it. -/
def nameColumn (pool : List Column) : Column :=
  (pool.find? (·.id == nameId)).getD { id := nameId, name := "NAME", width := 32 }

theorem id_nameColumn (pool : List Column) : (nameColumn pool).id = nameId := by
  unfold nameColumn
  cases hname : pool.find? (·.id == nameId) with
  | none =>
      rfl
  | some column =>
      simpa using List.find?_some hname

theorem eraseP_id_eq_filter
    {columns : List Column}
    (h : (columns.map (·.id)).Nodup)
    (id : String) :
    columns.eraseP (·.id == id) = columns.filter (·.id != id) := by
  induction columns with
  | nil =>
      rfl
  | cons first rest ih =>
      obtain ⟨hfirst, hrest⟩ := List.nodup_cons.mp h
      by_cases hid : first.id = id
      · have hall : ∀ column ∈ rest, (column.id != id) = true := by
          intro column hmem
          rw [bne_iff_ne]
          intro hsame
          exact hfirst (List.mem_map.mpr ⟨column, hmem, hsame.trans hid.symm⟩)
        rw [List.eraseP_cons_of_pos (by simpa using hid),
          List.filter_cons_of_neg (by simpa using hid), List.filter_eq_self.mpr hall]
      · rw [List.eraseP_cons_of_neg (by simpa using hid),
          List.filter_cons_of_pos (by simpa using hid), ih hrest]

/-- The name column comes first, in place of the one among the columns. -/
theorem nameFirst_eq
    {columns : List Column}
    (hnodup : (columns.map (·.id)).Nodup)
    (hname : ∀ column ∈ columns, column.id = nameId → column = nameColumn pool) :
    nameFirst pool columns = nameColumn pool :: columns.filter (·.id != nameId) := by
  unfold nameFirst
  split
  · rename_i column hfound
    rw [eraseP_id_eq_filter hnodup,
      hname column (List.mem_of_find?_eq_some hfound) (by simpa using List.find?_some hfound)]
  · rename_i hmissing
    have hall : columns.filter (·.id != nameId) = columns := by
      simpa [List.filter_eq_self] using hmissing
    rw [hall, nameColumn]

theorem eq_nameColumn_of_resolve?
    {column : Column}
    (h : resolve? pool nameId = some column) :
    column = nameColumn pool := by
  have hlabel : labelKey? nameId = none := by
    decide +kernel
  unfold resolve? at h
  unfold nameColumn
  split at h
  · rename_i hfound
    cases h
    rw [hfound, Option.getD_some]
  · rw [hlabel] at h
    cases h

/-- The name column and the columns among which it is put first. -/
theorem mem_nameFirst_iff
    {columns : List Column}
    (hfound : ∀ column ∈ columns, resolve? pool column.id = some column)
    {c : Column} :
    c ∈ nameFirst pool columns ↔ c = nameColumn pool ∨ c ∈ columns := by
  unfold nameFirst
  split
  · rename_i column hcolumn
    have hmem := List.mem_of_find?_eq_some hcolumn
    have hname : ∀ d ∈ columns, d.id = nameId → d = nameColumn pool := by
      intro d hd hid
      have hresolved := hfound d hd
      rw [hid] at hresolved
      exact eq_nameColumn_of_resolve? hresolved
    have hfirst : column = nameColumn pool :=
      hname column hmem (by simpa using List.find?_some hcolumn)
    rw [List.mem_cons, hfirst]
    by_cases hid : c.id = nameId
    · constructor
      · exact Or.imp_right List.mem_of_mem_eraseP
      · rintro (heq | hc)
        · exact Or.inl heq
        · exact Or.inl (hname c hc hid)
    · rw [List.mem_eraseP_of_neg (by simpa using hid)]
  · exact List.mem_cons

/-- All that a store shows of a pool is the name column and columns found by their ids. -/
theorem get_eq_nameFirst
    (hpool : (pool.map (·.id)).Nodup)
    (store : ColumnStore) (kind : String) :
    ∃ columns, store.get kind pool = nameFirst pool columns ∧
      ∀ column ∈ columns, resolve? pool column.id = some column := by
  rw [get]
  split
  · refine ⟨_, rfl, ?_⟩
    intro column hmem
    exact (resolve?_eq_some_iff hpool).mpr (.pooled (List.mem_of_mem_filter hmem))
  · refine ⟨_, rfl, ?_⟩
    intro column hmem
    obtain ⟨id, -, hid⟩ := List.mem_filterMap.mp hmem
    rw [id_of_resolve? hid]
    exact hid

theorem nameColumn_mem_get
    (hpool : (pool.map (·.id)).Nodup)
    (store : ColumnStore) (kind : String) :
    nameColumn pool ∈ store.get kind pool := by
  obtain ⟨columns, hget, hfound⟩ := get_eq_nameFirst hpool store kind
  rw [hget, mem_nameFirst_iff hfound]
  exact Or.inl rfl

theorem eq_or_resolve?_of_mem_get
    (hpool : (pool.map (·.id)).Nodup)
    {store : ColumnStore} {kind : String} {column : Column}
    (hmem : column ∈ store.get kind pool) :
    column = nameColumn pool ∨ resolve? pool column.id = some column := by
  obtain ⟨columns, hget, hfound⟩ := get_eq_nameFirst hpool store kind
  rw [hget, mem_nameFirst_iff hfound] at hmem
  exact hmem.imp_right (hfound column)

/-- Without those seen before, each id once, where it comes first. -/
theorem distinctAfter_eq (seen ids : List String) :
    distinctAfter seen ids = (ids.filter (! seen.contains ·)).eraseDups := by
  induction ids generalizing seen with
  | nil =>
      rfl
  | cons id rest ih =>
      rw [distinctAfter]
      split
      · rename_i hseen
        rw [ih, List.filter_cons_of_neg (by simpa using hseen)]
      · rename_i hnew
        rw [ih, List.filter_cons_of_pos (by simpa using hnew), List.eraseDups_cons,
          List.filter_filter]
        congr 2
        apply List.filter_congr
        intro other _
        rw [List.contains_cons, Bool.not_or]

/-- The other ids of a choice: each id but the name, where it comes first. -/
def others (ids : List String) : List String :=
  (ids.filter (· != nameId)).eraseDups

theorem distinctAfter_nameId (ids : List String) : distinctAfter [nameId] ids = others ids := by
  have hothers : (fun id => ! [nameId].contains id) = (· != nameId) := by
    funext id
    by_cases hid : id = nameId <;> simp [hid]
  rw [distinctAfter_eq, hothers, others]

theorem kept_eq (ids : List String) : kept ids = nameId :: others ids := by
  rw [kept, distinctAfter_nameId]

theorem nameId_notMem_others (ids : List String) : nameId ∉ others ids := by
  simp [others, List.mem_eraseDups]

theorem nodup_eraseDups (ids : List String) : ids.eraseDups.Nodup := by
  cases ids with
  | nil =>
      exact List.nodup_nil
  | cons id rest =>
      rw [List.eraseDups_cons]
      refine List.nodup_cons.mpr ⟨?_, nodup_eraseDups _⟩
      simp [List.mem_eraseDups]
termination_by ids.length
decreasing_by
  exact Nat.lt_succ_of_le (List.length_filter_le _ _)

theorem nodup_others (ids : List String) : (others ids).Nodup :=
  nodup_eraseDups _

variable {store : ColumnStore} {kind : String}

/-- What is shown of a choice that is held. -/
theorem get_of_choice?_eq_some
    {ids : List String}
    (h : store.choice? kind = some (kept ids))
    (pool : List Column) :
    store.get kind pool = nameColumn pool :: (others ids).filterMap (resolve? pool) := by
  have hids := map_id_filterMap_resolve? pool (kept ids)
  rw [get, show store.choices.get? kind = _ from h]
  have hnodup : (kept ids).Nodup := by
    rw [kept_eq]
    exact List.nodup_cons.mpr ⟨nameId_notMem_others ids, nodup_others ids⟩
  rw [nameFirst_eq (hids ▸ hnodup.filter _)]
  · congr 1
    have hrest : ∀ column ∈ (others ids).filterMap (resolve? pool),
        (column.id != nameId) = true := by
      intro column hmem
      obtain ⟨id, hid, hcolumn⟩ := List.mem_filterMap.mp hmem
      rw [id_of_resolve? hcolumn, bne_iff_ne]
      rintro rfl
      exact nameId_notMem_others ids hid
    dsimp only
    rw [kept_eq, List.filterMap_cons]
    split
    · exact List.filter_eq_self.mpr hrest
    · rename_i column hname
      rw [List.filter_cons_of_neg (by simp [id_of_resolve? hname]), List.filter_eq_self.mpr hrest]
  · intro column hmem hname
    obtain ⟨id, -, hcolumn⟩ := List.mem_filterMap.mp hmem
    rw [← id_of_resolve? hcolumn, hname] at hcolumn
    exact eq_nameColumn_of_resolve? hcolumn

/-- What is shown without a choice. -/
theorem get_of_choice?_eq_none
    (h : store.choice? kind = none)
    (hpool : (pool.map (·.id)).Nodup) :
    store.get kind pool =
      nameColumn pool :: pool.filter fun column => column.byDefault && column.id != nameId := by
  rw [get, show store.choices.get? kind = _ from h]
  have hnodup : ((pool.filter (·.byDefault)).map (·.id)).Nodup :=
    hpool.sublist (List.filter_sublist.map _)
  rw [nameFirst_eq hnodup, List.filter_filter]
  · congr 2
    funext column
    exact Bool.and_comm _ _
  · intro column hmem hname
    have hfound := find?_eq_some_of_mem hpool (List.mem_of_mem_filter hmem)
    rw [hname] at hfound
    rw [nameColumn, hfound, Option.getD_some]

/-- The columns shown after the name, by what was said last. -/
def shownAfter (pool : List Column) : Option (Option (List String)) → List Column
  | some (some ids) => (others ids).filterMap (resolve? pool)
  | some none | none => pool.filter fun column => column.byDefault && column.id != nameId

theorem get_performAll
    (operations : List Operation) (kind : String)
    (hpool : (pool.map (·.id)).Nodup) :
    (empty.performAll operations).get kind pool =
      nameColumn pool :: shownAfter pool (lastAbout? kind operations) := by
  have hheld := empty.choice?_performAll operations kind
  match hlast : lastAbout? kind operations with
  | some (some ids) =>
      rw [hlast] at hheld
      exact get_of_choice?_eq_some hheld pool
  | some none | none =>
      rw [hlast] at hheld
      exact get_of_choice?_eq_none hheld hpool

variable (said : Option (Option (List String)))

/-- The name and the columns after it have different ids. -/
theorem nodup_ids_shownAfter
    (hpool : (pool.map (·.id)).Nodup) :
    (nameId :: (shownAfter pool said).map (·.id)).Nodup := by
  match said with
  | some (some ids) =>
      rw [shownAfter, map_id_filterMap_resolve?]
      exact (List.nodup_cons.mpr ⟨nameId_notMem_others ids, nodup_others ids⟩).sublist
        (List.filter_sublist.cons_cons _)
  | some none | none =>
      refine List.nodup_cons.mpr ⟨?_, hpool.sublist (List.filter_sublist.map _)⟩
      simp [shownAfter]

/-- The columns after the name are found by their ids. -/
theorem resolve?_of_mem_shownAfter
    (hpool : (pool.map (·.id)).Nodup)
    {column : Column}
    (hmem : column ∈ shownAfter pool said) :
    resolve? pool column.id = some column := by
  match said with
  | some (some ids) =>
      obtain ⟨id, -, hcolumn⟩ := List.mem_filterMap.mp hmem
      rw [id_of_resolve? hcolumn, hcolumn]
  | some none | none =>
      exact (resolve?_eq_some_iff hpool).mpr (.pooled (List.mem_of_mem_filter hmem))

/-- To choose what is shown changes nothing that is shown. -/
theorem shownAfter_ids
    (hpool : (pool.map (·.id)).Nodup) :
    shownAfter pool (some (some (nameId :: (shownAfter pool said).map (·.id)))) =
      shownAfter pool said := by
  rw [shownAfter, ← distinctAfter_nameId, distinctAfter_name (nodup_ids_shownAfter said hpool)]
  exact filterMap_resolve?_map_id fun column hmem => resolve?_of_mem_shownAfter said hpool hmem

end ColumnStore

open ColumnStore in
/-- After any operations on a store, and for every pool of columns with different ids:
what a kind shows is settled by the last operation on it.  Of chosen ids it shows the
name column and then the column of each other id, once, in the order in which the ids
come first; these are the columns of the pool and those of labels, and ids without a
column are left out.  Without a choice it shows the name column and the other default
columns.  Either way the name comes first, no id comes twice, the kind counts as chosen
for when ids were set last, and to store what is shown changes nothing that is shown. -/
theorem columns_of_last_operation
    (operations : List Operation) (kind : String) (pool : List Column)
    (hpool : (pool.map (·.id)).Nodup) :
    let store := empty.performAll operations
    let columns := store.get kind pool
    let last := lastAbout? kind operations
    columns = nameColumn pool :: shownAfter pool last ∧
    (∀ id column, resolve? pool id = some column ↔ ColumnOf pool id column) ∧
    columns.head?.map (·.id) = some nameId ∧
    (columns.map (·.id)).Nodup ∧
    (store.isCustom kind = true ↔ ∃ ids, last = some (some ids)) ∧
    (store.set kind (columns.map (·.id))).get kind pool = columns := by
  intro store columns last
  have hshown : columns = nameColumn pool :: shownAfter pool last :=
    get_performAll operations kind hpool
  have hids : columns.map (·.id) = nameId :: (shownAfter pool last).map (·.id) := by
    rw [hshown, List.map_cons, id_nameColumn]
  refine ⟨hshown, fun id column => resolve?_eq_some_iff hpool, ?_, ?_, ?_, ?_⟩
  · rw [hshown, List.head?_cons, Option.map_some, id_nameColumn]
  · rw [hids]
    exact nodup_ids_shownAfter last hpool
  · have hheld : store.choice? kind = heldAfter none last :=
      empty.choice?_performAll operations kind
    change (store.choice? kind).isSome = true ↔ _
    rw [hheld]
    match last with
    | some (some ids) | some none | none =>
        simp [heldAfter]
  · have hset : (store.set kind (columns.map (·.id))).choice? kind =
        some (kept (columns.map (·.id))) := by
      rw [choice?_set, if_pos rfl]
    rw [get_of_choice?_eq_some hset, hids, hshown]
    exact congrArg (_ :: ·) (shownAfter_ids last hpool)

/-- Ids come twice, the name comes late, and some ids have no column; in the pool the
name is no default and comes second. -/
theorem columns_of_last_operation_pods :
    let pool : List Column :=
      [{ id := "status", name := "STATUS", width := 18 },
       { id := "name", name := "POD", width := 30, byDefault := false },
       { id := "age", name := "AGE", width := 6 }]
    let operations : List ColumnStore.Operation :=
      [.reset "pods", .seed { columns := .ofList [("nodes", ["age"]), ("pods", ["status"])] },
       .set "pods" ["label:app", "age", "label:", "age", "node", "name", "status"],
       .reset "nodes"]
    (pool.map (·.id)).Nodup ∧
    (ColumnStore.empty.performAll operations).get "pods" pool =
      [{ id := "name", name := "POD", width := 30, byDefault := false }, Column.label "app",
       { id := "age", name := "AGE", width := 6 },
       { id := "status", name := "STATUS", width := 18 }] := by
  intro pool operations
  have hpool : (pool.map (·.id)).Nodup := by
    decide +kernel
  obtain ⟨hshown, -⟩ := columns_of_last_operation operations "pods" pool hpool
  refine ⟨hpool, hshown.trans ?_⟩
  decide +kernel

end ClusterNav
