import ClusterNav.Proofs.KeyAnswers

/-!
# The page of the cursor

A filtered list always shows the page that its cursor is on.  It matches its own
values with its own filter, it counts the rows that match, and its cursor stands on
one of them.  Every key and every new set of values keeps it so; only fitting the
list changes the size of a page.

**Results.**
* `FilterList.Paged`: a list in order, with pages of a size.
* `FilterList.pageEntries_cursor`: the row under the cursor is on the page.
* `ListView.paged_respond`: no event changes the size of the pages of a list.
-/

namespace ClusterNav
namespace Select

namespace Paginator

/-- The page of a row is one of the pages. -/
theorem page_le_pages
    {p : Paginator} {cursor : Nat}
    (hpos : 0 < p.perPage)
    (hcursor : cursor ≤ p.total - 1) :
    cursor / p.perPage ≤ p.pages - 1 := by
  have hlast : (p.total - 1) / p.perPage ≤ p.pages - 1 := by
    rcases Nat.eq_zero_or_pos p.total with hzero | htotal
    · simp [hzero]
    · have hround : p.total + p.perPage - 1 = p.total - 1 + p.perPage := by
        omega
      rw [pages, hround, Nat.add_div_right _ hpos]
      omega
  exact Nat.le_trans (Nat.div_le_div_right hcursor) hlast

theorem page_follow
    {p : Paginator} {cursor : Nat}
    (hpos : 0 < p.perPage)
    (hcursor : cursor ≤ p.total - 1) :
    (p.follow cursor).page = cursor / p.perPage := by
  exact Nat.min_eq_left (page_le_pages hpos hcursor)

end Paginator

namespace FilterList

/-- A list of values in order, with pages of `n` rows, that shows the page of its
cursor. -/
structure Paged (values : List String) (n : Nat) (l : FilterList) : Prop where
  values_eq : l.values = values
  visible_eq : l.visible = matchesFrom l.filter 0 values
  total_eq : l.paginator.total = l.visible.length
  perPage_eq : l.paginator.perPage = n
  pos : 0 < n
  cursor_le : l.cursor ≤ l.visible.length - 1
  page_eq : l.paginator.page = l.cursor / n

variable {values : List String} {n : Nat} {l : FilterList}

/-- Matching puts a list in order. -/
theorem paged_refilter
    (hvalues : l.values = values)
    (hperPage : l.paginator.perPage = n)
    (hpos : 0 < n) :
    l.refilter.Paged values n where
  values_eq := hvalues
  visible_eq := by
    rw [← hvalues]
    rfl
  total_eq := rfl
  perPage_eq := hperPage
  pos := hpos
  cursor_le := Nat.min_le_right _ _
  page_eq := by
    subst hperPage
    exact Paginator.page_follow hpos (Nat.min_le_right _ _)

theorem paged_ofValues (values : List String) :
    (ofValues values).Paged values 10 :=
  paged_refilter rfl rfl (by decide)

namespace Paged

theorem setValues
    (h : l.Paged values n)
    (others : List String) :
    (l.setValues others).Paged others n :=
  paged_refilter rfl h.perPage_eq h.pos

/-- Only fitting a list changes the size of its pages. -/
theorem setPerPage
    (h : l.Paged values n)
    (m : Nat) :
    (l.setPerPage m).Paged values (max m 1) where
  values_eq := h.values_eq
  visible_eq := h.visible_eq
  total_eq := h.total_eq
  perPage_eq := rfl
  pos := Nat.le_max_right _ _
  cursor_le := h.cursor_le
  page_eq := by
    apply Paginator.page_follow (Nat.le_max_right _ _)
    rw [Paginator.total_setPerPage, h.total_eq]
    exact h.cursor_le

theorem selectVisible
    (h : l.Paged values n)
    (position : Nat) :
    (l.selectVisible position).Paged values n where
  values_eq := h.values_eq
  visible_eq := h.visible_eq
  total_eq := h.total_eq
  perPage_eq := h.perPage_eq
  pos := h.pos
  cursor_le := Nat.min_le_right _ _
  page_eq := by
    have hpos : 0 < l.paginator.perPage := by
      rw [h.perPage_eq]
      exact h.pos
    rw [← h.perPage_eq]
    apply Paginator.page_follow hpos
    rw [h.total_eq]
    exact Nat.min_le_right _ _

/-- The prompt of the filter is opened or closed. -/
theorem withState
    (h : l.Paged values n)
    (state : FilterState) :
    Paged values n { l with state := state } :=
  ⟨h.values_eq, h.visible_eq, h.total_eq, h.perPage_eq, h.pos, h.cursor_le, h.page_eq⟩

theorem pushChar
    (h : l.Paged values n)
    (c : Char) :
    (l.pushChar c).Paged values n :=
  paged_refilter h.values_eq h.perPage_eq h.pos

theorem popChar
    (h : l.Paged values n) :
    l.popChar.Paged values n := by
  unfold FilterList.popChar
  split
  · exact h
  · exact paged_refilter h.values_eq h.perPage_eq h.pos

theorem clearFilter
    (h : l.Paged values n) :
    l.clearFilter.Paged values n :=
  paged_refilter h.values_eq h.perPage_eq h.pos

theorem jumpToInitial
    (h : l.Paged values n)
    (letter : Char) :
    (l.jumpToInitial letter).Paged values n := by
  unfold FilterList.jumpToInitial FilterList.jump
  split
  · exact h.selectVisible _
  · exact h

theorem selectFirst
    (h : l.Paged values n)
    (p : FilterMatch → Bool) :
    (l.selectFirst p).Paged values n := by
  unfold FilterList.selectFirst
  split
  · exact h.selectVisible _
  · exact h

theorem cursorKey?
    (h : l.Paged values n)
    {k : Key} {m : FilterList}
    (hm : l.cursorKey? k = some m) :
    m.Paged values n := by
  unfold FilterList.cursorKey? at hm
  split at hm
  all_goals cases hm
  all_goals exact h.selectVisible _

theorem editKey
    (h : l.Paged values n)
    (k : Key) :
    (l.editKey k).Paged values n := by
  unfold FilterList.editKey
  split
  · exact h.clearFilter
  · exact h.withState _
  · exact h.popChar
  · exact h.popChar
  · exact h.selectVisible _
  · exact h.selectVisible _
  · exact h.selectVisible _
  · exact h.selectVisible _
  · split
    · exact h.pushChar _
    · exact h

/-- The page starts `cursor % n` rows above the cursor. -/
theorem start_add_mod
    (h : l.Paged values n) :
    l.pageBounds.1 + l.cursor % n = l.cursor := by
  have hsplit : n * (l.cursor / n) + l.cursor % n = l.cursor :=
    Nat.div_add_mod l.cursor n
  have hcursor := h.cursor_le
  have hstart : l.pageBounds.1 = min (l.cursor / n * n) l.visible.length := by
    show min (l.paginator.page * l.paginator.perPage) l.paginator.total = _
    rw [h.page_eq, h.perPage_eq, h.total_eq]
  rw [Nat.mul_comm] at hsplit
  omega

theorem stop_eq
    (h : l.Paged values n) :
    l.pageBounds.2 = min (l.pageBounds.1 + n) l.visible.length := by
  show min (l.pageBounds.1 + l.paginator.perPage) l.paginator.total = _
  rw [h.perPage_eq, h.total_eq]

/-- A row of the page is a row of the list. -/
theorem pageEntries_getElem?
    (h : l.Paged values n)
    {i : Nat}
    (hi : i < n) :
    l.pageEntries[i]? = l.visible[l.pageBounds.1 + i]? := by
  have hentries : l.pageEntries =
      (l.visible.drop l.pageBounds.1).take (l.pageBounds.2 - l.pageBounds.1) := by
    rfl
  rw [hentries, h.stop_eq, List.getElem?_take, List.getElem?_drop]
  split
  · rfl
  · symm
    rw [List.getElem?_eq_none_iff]
    omega

/-- The row under the cursor is on the page. -/
theorem pageEntries_cursor
    (h : l.Paged values n) :
    l.pageEntries[l.cursor % n]? = l.visible[l.cursor]? := by
  rw [h.pageEntries_getElem? (Nat.mod_lt _ h.pos), h.start_add_mod]

/-- The cursor is on a row as soon as there is one. -/
theorem cursor_lt
    (h : l.Paged values n)
    (hvisible : l.visible ≠ []) :
    l.cursor < l.visible.length := by
  have hcursor := h.cursor_le
  have hlength : 0 < l.visible.length := List.length_pos_iff.mpr hvisible
  omega

end Paged

/-- Every match stands for a value. -/
theorem index_lt_of_mem_matchesFrom
    {filter : String} {values : List String} {start : Nat} {entry : FilterMatch}
    (h : entry ∈ matchesFrom filter start values) :
    entry.index < start + values.length := by
  induction values generalizing start with
  | nil =>
      cases h
  | cons value rest ih =>
      rw [List.length_cons]
      unfold matchesFrom at h
      split at h
      · rcases List.mem_cons.mp h with rfl | h
        · show start < _
          omega
        · have := ih h
          omega
      · have := ih h
        omega

/-- Without a filter all values match. -/
theorem length_matchesFrom_empty (start : Nat) (values : List String) :
    (matchesFrom "" start values).length = values.length := by
  induction values generalizing start with
  | nil =>
      rfl
  | cons value rest ih =>
      exact congrArg Nat.succ (ih (start + 1))

theorem mem_visible_of_mem_pageEntries
    {entry : FilterMatch}
    (h : entry ∈ l.pageEntries) :
    entry ∈ l.visible :=
  List.mem_of_mem_drop (List.mem_of_mem_take h)

end FilterList
end Select

/-! ## Lists of items -/

namespace ListView

open Select

variable {n : Nat} {v : ListView}

/-- A list of items in order, with pages of `n` rows. -/
def Paged (n : Nat) (v : ListView) : Prop :=
  v.list.Paged (v.items.map (·.name)) n

/-- Every row stands for an item. -/
theorem item?_isSome_of_mem_visible
    (h : v.Paged n)
    {entry : FilterMatch}
    (hentry : entry ∈ v.list.visible) :
    (v.item? entry).isSome := by
  rw [h.visible_eq] at hentry
  have hindex := FilterList.index_lt_of_mem_matchesFrom hentry
  rw [List.length_map, Nat.zero_add] at hindex
  rw [item?, List.getElem?_eq_getElem hindex]
  rfl

theorem item?_isSome_of_mem_pageEntries
    (h : v.Paged n)
    {entry : FilterMatch}
    (hentry : entry ∈ v.list.pageEntries) :
    (v.item? entry).isSome :=
  item?_isSome_of_mem_visible h (FilterList.mem_visible_of_mem_pageEntries hentry)

theorem paged_reload
    (h : v.Paged n) :
    v.reload.Paged n :=
  h.setValues _

theorem paged_refreshColumns
    (h : v.Paged n)
    (store : ColumnStore) :
    (v.refreshColumns store).Paged n :=
  h

theorem paged_selectName
    (h : v.Paged n)
    (name : String) :
    (v.selectName name).Paged n :=
  h.selectFirst _

theorem paged_unloaded (kind : Kind) (mode : ListMode) (ns : NamespaceScope) :
    (unloaded kind mode ns).Paged 10 :=
  FilterList.paged_ofValues []

theorem paged_ofKind (session : Session) (kind : Kind) :
    (ofKind session kind).Paged 10 :=
  paged_refreshColumns (paged_reload (paged_unloaded kind .browse session.ns)) _

theorem paged_ofScope (session : Session) (picker : PickerKind) :
    (ofScope session picker).Paged 10 :=
  paged_selectName (paged_refreshColumns (paged_reload (paged_unloaded _ _ session.ns)) _) _

theorem paged_setSize
    (h : v.Paged n)
    (width height : Nat) :
    (v.setSize width height).Paged (max (height - 1) 1) := by
  have hset := h.setPerPage (max (height - 1) 1)
  rwa [Nat.max_eq_left (Nat.le_max_right (height - 1) 1)] at hset

theorem paged_cycleSort
    (h : v.Paged n) :
    v.cycleSort.Paged n := by
  have hsorted : ∀ i, Paged n ({ v with sortIndex := i }.reload) :=
    fun _ => h.setValues _
  unfold cycleSort
  split
  · exact h
  · dsimp only
    split
    · exact paged_selectName (hsorted _) _
    · exact hsorted _

theorem paged_find
    (h : v.Paged n)
    (k : Key) :
    (v.find k).Paged n := by
  unfold find Paged
  dsimp only
  split
  · exact h.jumpToInitial _
  · exact h

theorem paged_syncNamespace
    (h : v.Paged n)
    (ns : NamespaceScope) :
    (v.syncNamespace ns).Paged n := by
  unfold syncNamespace
  split
  · exact h.setValues _
  · exact h

theorem paged_key
    (h : v.Paged n)
    (session : Session) (k : Key) :
    (v.key session k).view.Paged n := by
  have hanswer := v.keyAnswer_key session k
  generalize v.key session k = r at hanswer ⊢
  cases hanswer with
  | edits =>
      exact h.editKey k
  | finds =>
      exact paged_find h k
  | opensFilter =>
      exact h.withState _
  | sorts =>
      exact paged_cycleSort h
  | clearsFilter =>
      exact h.clearFilter
  | moves cursor =>
      exact h.cursorKey? cursor
  | armsFind | opensColumns | leaves | opensItem | selects | follows | ignores =>
      exact h

/-- No event changes the size of the pages of a list. -/
theorem paged_respond
    (h : v.Paged n)
    (session : Session) (event : Event) :
    (v.respond session event).view.Paged n := by
  have hsync := paged_syncNamespace h session.ns
  cases event with
  | key k =>
      exact paged_key hsync session k
  | resize width height | message m =>
      exact hsync

end ListView
end ClusterNav
