import ClusterNav.Proofs.CursorRow
import ClusterNav.Proofs.EscapeKey
import ClusterNav.Proofs.FilterOperations

/-!
# Picking a row

A pod and a container are picked from a filtered table.  A key that picks opens what the
row under the cursor stands for, and this row alone is drawn on the background of the
cursor.  The filter only says which rows there are: a row stands for what it shows,
however many rows above it the filter has taken away.

**Results.**
* `LogPicker.exists_picked`: the row under the cursor and what it stands for.
* `PodPicker.key_of_picks`, `ContainerPicker.key_of_picks`: what a key does that picks.
* `PodPicker.key_of_stays`, `ContainerPicker.key_of_stays`: what the other keys do.
-/

namespace ClusterNav

open Select

/-- A key that picks the row under the cursor. -/
def Key.Picks (k : Key) : Prop :=
  k.name ∈ ["enter", "l", "right"]

instance (k : Key) : Decidable k.Picks :=
  inferInstanceAs (Decidable (_ ∈ _))

/-- Of some lines, one alone is drawn on the background of the cursor. -/
structure Line.IsOnlyCursorRow (line : Line) (lines : List Line) : Prop where
  drawn : line.IsCursorRow
  alone : ∃ place, lines[place]? = some line ∧
    ∀ (i : Nat) (other : Line), lines[i]? = some other → other.IsCursorRow → i = place

namespace LogPicker

variable {α : Type} {n : Nat} {values : List String} {list : FilterList} {k : Key}

/-! ## The table of a picker -/

/-- What the row under the cursor stands for. -/
def picked? (items : List α) (list : FilterList) : Option α :=
  list.selectedIndex?.bind fun index => items[index]?

/-- A table of what can be picked. -/
def table (header : List (String × Nat)) (items : List α) (list : FilterList)
    (cells : α → FilterMatch → List Cell) : List Line :=
  Table.header header ::
    list.rows fun entry _ => items[entry.index]?.map fun item => cells item entry

/-- The row under the cursor shows what it stands for, and no other line is drawn like it. -/
theorem exists_picked
    {items : List α}
    (h : list.Paged values n)
    (hlength : values.length = items.length)
    (hvisible : list.visible ≠ [])
    (header : List (String × Nat)) (cells : α → FilterMatch → List Cell) :
    ∃ item entry, picked? items list = some item ∧
      (Table.row (cells item entry) true).IsOnlyCursorRow (table header items list cells) := by
  have hrows : ∀ entry ∈ list.visible, ∃ item, items[entry.index]? = some item := by
    intro entry hentry
    rw [h.visible_eq] at hentry
    have hindex := FilterList.index_lt_of_mem_matchesFrom hentry
    rw [Nat.zero_add, hlength] at hindex
    exact ⟨_, List.getElem?_eq_getElem hindex⟩
  have hcells : ∀ entry ∈ list.pageEntries, ∀ _ : Bool,
      (items[entry.index]?.map fun item => cells item entry).isSome := by
    intro entry hentry _
    obtain ⟨item, hitem⟩ := hrows entry (FilterList.mem_visible_of_mem_pageEntries hentry)
    simp [hitem]
  obtain ⟨entry, hentry, -, hindex⟩ := h.selected_on_page hvisible
  obtain ⟨item, hitem⟩ := hrows entry (List.mem_of_getElem? hentry)
  obtain ⟨first, hrow⟩ := h.rows_cursor hcells hentry
  refine ⟨item, entry, by rw [picked?, hindex, Option.bind_some, hitem], ?_, ?_⟩
  · exact (Table.isCursorRow_row_iff _ _).mpr rfl
  · refine ⟨list.cursor % n + 1, ?_, ?_⟩
    · rw [table, List.getElem?_cons_succ, hrow, hitem]
      rfl
    · intro i other hother hcursorRow
      cases i with
      | zero =>
          obtain rfl := Option.some.inj hother
          exact absurd hcursorRow (Line.not_isCursorRow_of_plain rfl)
      | succ i =>
          rw [table, List.getElem?_cons_succ] at hother
          exact congrArg Nat.succ (h.eq_cursor_of_isCursorRow hcells hother hcursorRow)

/-- Without a row there is nothing to pick. -/
theorem picked?_eq_none
    (hnone : list.visible = [])
    (items : List α) :
    picked? items list = none := by
  simp [picked?, FilterList.selectedIndex?, hnone]

/-! ## Keys -/

theorem key?_of_picks
    (hidle : list.isFiltering = false)
    (hpicks : k.Picks) :
    key? list k = none := by
  unfold key?
  rw [if_neg (by simp [hidle])]
  simp only [Key.Picks, List.mem_cons, List.not_mem_nil, or_false] at hpicks
  rcases hpicks with hk | hk | hk <;> simp [hk]

/-- A key that neither picks nor leaves edits the filter or moves the cursor. -/
theorem key?_of_stays
    (hpicks : ¬ (list.isFiltering = false ∧ k.Picks))
    (hleaves : ¬ (k.name = "esc" ∧ list.modes false = [])) :
    ∃ next, key? list k = some (next, .stay) ∧
      ∀ values n, list.Paged values n → next.Paged values n := by
  unfold key?
  split
  · exact ⟨_, rfl, fun _ _ h => h.editKey k⟩
  rename_i hidle
  rw [Bool.not_eq_true] at hidle
  split
  case h_1 hesc =>
    have hfiltered : list.isFiltered = true := by
      by_contra hbare
      refine hleaves ⟨hesc, FilterList.modes_eq_nil_iff.mpr ⟨?_, ?_⟩⟩
      · simp [hidle]
      · simpa using hbare
    exact ⟨_, by rw [if_pos hfiltered], fun _ _ h => h.clearFilter⟩
  case h_2 => exact ⟨_, rfl, fun _ _ h => h.withState _⟩
  case h_3 hk | h_4 hk | h_5 hk => exact absurd ⟨hidle, by simp [Key.Picks, hk]⟩ hpicks
  case h_6 => exact ⟨_, rfl, fun _ _ h => h.cursorKey k⟩

end LogPicker

/-! ## Pods -/

namespace PodPicker

variable {v : PodPicker} {k : Key}

/-- The list holds the names of the pods. -/
def InOrder (v : PodPicker) : Prop :=
  ∃ n, v.list.Paged (v.pods.map (·.name)) n

/-- The row of a pod is under the cursor, and alone is drawn so. -/
def Highlights (v : PodPicker) (pod : Item) : Prop :=
  v.selected? = some pod ∧
    ∃ entry, (Table.row (cells pod entry) true).IsOnlyCursorRow v.body

theorem inOrder_ofPods (kind : Kind) (pods : List Item) : (ofPods kind pods).InOrder :=
  ⟨10, FilterList.paged_ofValues _⟩

theorem InOrder.fitList
    (h : v.InOrder)
    (height : Nat) :
    InOrder { v with list := LogPicker.fitList v.list height } := by
  obtain ⟨n, hn⟩ := h
  exact ⟨_, hn.setPerPage _⟩

/-- A key that picks goes on with the pod under the cursor, if there is one. -/
theorem key_of_picks
    (h : v.InOrder)
    (hidle : v.list.isFiltering = false)
    (hpicks : k.Picks) :
    v.list.visible = [] ∧ v.key k = { view := v } ∨
    ∃ pod, v.Highlights pod ∧ v.key k = { view := v, move := .replace (v.next pod) } := by
  obtain ⟨n, hn⟩ := h
  rw [key, LogPicker.key?_of_picks hidle hpicks]
  by_cases hvisible : v.list.visible = []
  · have hnone : v.selected? = none := LogPicker.picked?_eq_none hvisible v.pods
    exact Or.inl ⟨hvisible, by rw [hnone]⟩
  · obtain ⟨pod, entry, hpod, hrow⟩ := LogPicker.exists_picked hn
      (show (v.pods.map (·.name)).length = v.pods.length by simp) hvisible
      [("NAME", 40), ("STATUS", 18), ("READY", 6), ("RESTARTS", 8)] cells
    have hselected : v.selected? = some pod := hpod
    exact Or.inr ⟨pod, ⟨hselected, entry, hrow⟩, by rw [hselected]⟩

theorem key_of_stays
    (hpicks : ¬ (v.list.isFiltering = false ∧ k.Picks))
    (hleaves : ¬ (k.name = "esc" ∧ v.list.modes false = [])) :
    ∃ list, v.key k = { view := { v with list := list } } ∧
      (v.InOrder → InOrder { v with list := list }) := by
  obtain ⟨list, hkey, hpaged⟩ := LogPicker.key?_of_stays hpicks hleaves
  refine ⟨list, by rw [key, hkey], ?_⟩
  rintro ⟨n, hn⟩
  exact ⟨n, hpaged _ _ hn⟩

end PodPicker

/-! ## Containers -/

namespace ContainerPicker

variable {v : ContainerPicker} {k : Key}

/-- The list holds the names of the containers. -/
def InOrder (v : ContainerPicker) : Prop :=
  ∃ n, v.list.Paged v.containers n

/-- The row of a container is under the cursor, and alone is drawn so. -/
def Highlights (v : ContainerPicker) (name : String) : Prop :=
  v.selected? = some name ∧
    ∃ marks, (Table.row [{ text := name, width := 32, marks := marks }] true).IsOnlyCursorRow v.body

theorem inOrder_ofContainers (kind : Kind) (item : Item) (containers : List String) :
    (ofContainers kind item containers).InOrder :=
  ⟨10, FilterList.paged_ofValues _⟩

theorem InOrder.fitList
    (h : v.InOrder)
    (height : Nat) :
    InOrder { v with list := LogPicker.fitList v.list height } := by
  obtain ⟨n, hn⟩ := h
  exact ⟨_, hn.setPerPage _⟩

/-- A key that picks opens the log of the container under the cursor, if there is one. -/
theorem key_of_picks
    (h : v.InOrder)
    (hidle : v.list.isFiltering = false)
    (hpicks : k.Picks) :
    v.list.visible = [] ∧ v.key k = { view := v } ∨
    ∃ name, v.Highlights name ∧
      v.key k = { view := v, move := .replace (.log v.kind v.item (some name)) } := by
  obtain ⟨n, hn⟩ := h
  rw [key, LogPicker.key?_of_picks hidle hpicks]
  by_cases hvisible : v.list.visible = []
  · have hnone : v.selected? = none := LogPicker.picked?_eq_none hvisible v.containers
    exact Or.inl ⟨hvisible, by rw [hnone]⟩
  · obtain ⟨name, entry, hname, hrow⟩ := LogPicker.exists_picked hn
      (show v.containers.length = v.containers.length from rfl) hvisible
      [("CONTAINER", 32)] fun name entry =>
        [{ text := name, width := 32, marks := entry.positions }]
    have hselected : v.selected? = some name := hname
    exact Or.inr ⟨name, ⟨hselected, entry.positions, hrow⟩, by rw [hselected]⟩

theorem key_of_stays
    (hpicks : ¬ (v.list.isFiltering = false ∧ k.Picks))
    (hleaves : ¬ (k.name = "esc" ∧ v.list.modes false = [])) :
    ∃ list, v.key k = { view := { v with list := list } } ∧
      (v.InOrder → InOrder { v with list := list }) := by
  obtain ⟨list, hkey, hpaged⟩ := LogPicker.key?_of_stays hpicks hleaves
  refine ⟨list, by rw [key, hkey], ?_⟩
  rintro ⟨n, hn⟩
  exact ⟨n, hpaged _ _ hn⟩

end ContainerPicker
end ClusterNav
