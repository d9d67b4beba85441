import ClusterNav.Proofs.FilterPages
import ClusterNav.Proofs.Resizing

/-!
# The row under the cursor

Of all lines of a frame with a list, one alone is drawn on the background of the
cursor: the row of the selected item.  Below the heading it stands as far down as
the cursor stands on its page, so it is in the frame when the frame has room for
that many lines of the list.

**Results.**
* `ListView.body_cursor`: the row of the selected item among the lines of a list.
* `ListView.eq_cursor_of_isCursorRow`: no other line of a list looks like it.
* `Host.cursorRow_mem_frame_iff`: when a frame holds the row of the selected item.
-/

namespace ClusterNav

/-- Is a line drawn on the background of the cursor? -/
def Line.IsCursorRow (line : Line) : Prop :=
  line.style.bg = some .selected

theorem Table.isCursorRow_row_iff (cells : List Cell) (selected : Bool) :
    (row cells selected).IsCursorRow ↔ selected = true := by
  cases selected <;> simp [row, Line.IsCursorRow, Style.plain, Style.withBg, Style.emphasized]

theorem Line.not_isCursorRow_of_plain
    {line : Line}
    (h : line.style = .plain) :
    ¬ line.IsCursorRow := by
  simp [IsCursorRow, h, Style.plain]

/-! ## Rows of a page -/

/-- When no element is dropped, the elements stay in their places. -/
theorem getElem?_filterMap_of_isSome
    {α β : Type} {f : α → Option β} {xs : List α}
    (h : ∀ x ∈ xs, (f x).isSome)
    (i : Nat) :
    (xs.filterMap f)[i]? = xs[i]?.bind f := by
  induction xs generalizing i with
  | nil =>
      rfl
  | cons x rest ih =>
      obtain ⟨y, hy⟩ := Option.isSome_iff_exists.mp (h x List.mem_cons_self)
      rw [List.filterMap_cons_some hy]
      cases i with
      | zero =>
          exact hy.symm
      | succ i =>
          exact ih (fun x hx => h x (List.mem_cons_of_mem _ hx)) i

namespace Select
namespace FilterList

theorem length_firstOfEach (seen : List Char) (letters : List (Option Char)) :
    (firstOfEach seen letters).length = letters.length := by
  induction letters generalizing seen with
  | nil =>
      rfl
  | cons letter rest ih =>
      cases letter with
      | none =>
          exact congrArg Nat.succ (ih seen)
      | some c =>
          unfold firstOfEach
          split
          · exact congrArg Nat.succ (ih seen)
          · exact congrArg Nat.succ (ih (c :: seen))

variable {l : FilterList} {cells : FilterMatch → Bool → Option (List Cell)}

/-- A row of the page is drawn from the match in its place. -/
theorem rows_getElem?
    (hcells : ∀ entry ∈ l.pageEntries, ∀ first, (cells entry first).isSome)
    (i : Nat) :
    (l.rows cells)[i]? =
      (l.pageEntries.zip l.initialHints)[i]?.bind fun e =>
        (cells e.1 e.2).map fun cs => Table.row cs (l.pageBounds.1 + i == l.cursor) := by
  rw [rows, getElem?_filterMap_of_isSome, List.getElem?_zipIdx]
  · cases (l.pageEntries.zip l.initialHints)[i]? <;> rfl
  · rintro ⟨e, position⟩ he
    have hentry := (List.of_mem_zip (List.fst_mem_of_mem_zipIdx he)).1
    simp [hcells e.1 hentry]

theorem zip_getElem?
    {i : Nat} {entry : FilterMatch}
    (hentry : l.pageEntries[i]? = some entry) :
    ∃ first, (l.pageEntries.zip l.initialHints)[i]? = some (entry, first) := by
  obtain ⟨hi, -⟩ := List.getElem?_eq_some_iff.mp hentry
  have hhints : i < l.initialHints.length := by
    rw [initialHints, length_firstOfEach, List.length_map]
    exact hi
  refine ⟨l.initialHints[i], ?_⟩
  rw [List.getElem?_zip_eq_some]
  exact ⟨hentry, List.getElem?_eq_getElem hhints⟩

namespace Paged

variable {values : List String} {n : Nat}

/-- The row under the cursor is as far down as the cursor is on its page. -/
theorem rows_cursor
    (h : l.Paged values n)
    (hcells : ∀ entry ∈ l.pageEntries, ∀ first, (cells entry first).isSome)
    {entry : FilterMatch}
    (hentry : l.visible[l.cursor]? = some entry) :
    ∃ first, (l.rows cells)[l.cursor % n]? =
      (cells entry first).map fun cs => Table.row cs true := by
  have hpage : l.pageEntries[l.cursor % n]? = some entry := by
    rw [h.pageEntries_cursor, hentry]
  obtain ⟨first, hzip⟩ := zip_getElem? hpage
  refine ⟨first, ?_⟩
  rw [rows_getElem? hcells, hzip, h.start_add_mod, Option.bind_some, beq_self_eq_true]

/-- No other row is drawn on the background of the cursor. -/
theorem eq_cursor_of_isCursorRow
    (h : l.Paged values n)
    (hcells : ∀ entry ∈ l.pageEntries, ∀ first, (cells entry first).isSome)
    {i : Nat} {line : Line}
    (hline : (l.rows cells)[i]? = some line)
    (hcursorRow : line.IsCursorRow) :
    i = l.cursor % n := by
  rw [rows_getElem? hcells] at hline
  obtain ⟨e, -, hrow⟩ := Option.bind_eq_some_iff.mp hline
  obtain ⟨cs, -, rfl⟩ := Option.map_eq_some_iff.mp hrow
  rw [Table.isCursorRow_row_iff, beq_iff_eq] at hcursorRow
  have hmod := h.start_add_mod
  omega

end Paged

end FilterList
end Select

namespace ListView

open Select

variable {n : Nat} {v : ListView}

theorem body_of_visible
    (hvisible : v.list.visible ≠ []) :
    v.body =
      Table.header (v.shownColumns.map fun c => (c.name, c.width)) ::
        v.list.rows fun entry first =>
          (v.item? entry).map fun item => v.cells item entry (v.findArmed && first) := by
  rw [body, if_neg (by simp [hvisible])]

theorem isSome_cells
    (h : v.Paged n) :
    ∀ entry ∈ v.list.pageEntries, ∀ first,
      ((v.item? entry).map fun item => v.cells item entry (v.findArmed && first)).isSome := by
  intro entry hentry first
  rw [Option.isSome_map]
  exact item?_isSome_of_mem_pageEntries h hentry

/-- The row of the selected item stands as far below the heading as the cursor
stands on its page. -/
theorem body_cursor
    (h : v.Paged n)
    (hvisible : v.list.visible ≠ []) :
    ∃ item entry hint,
      v.selected? = some item ∧
      v.list.visible[v.list.cursor]? = some entry ∧
      v.body[v.list.cursor % n + 1]? = some (Table.row (v.cells item entry hint) true) := by
  have hcursor := h.cursor_lt hvisible
  have hentry := List.getElem?_eq_getElem hcursor
  generalize v.list.visible[v.list.cursor] = entry at hentry
  obtain ⟨item, hitem⟩ := Option.isSome_iff_exists.mp
    (item?_isSome_of_mem_visible h (List.mem_of_getElem? hentry))
  obtain ⟨first, hrow⟩ := FilterList.Paged.rows_cursor h (isSome_cells h) hentry
  refine ⟨item, entry, v.findArmed && first, ?_, hentry, ?_⟩
  · rw [selected?, FilterList.selectedIndex?, hentry]
    exact hitem
  · rw [body_of_visible hvisible, List.getElem?_cons_succ, hrow]
    simp [hitem]

/-- No other line of a list is drawn on the background of the cursor. -/
theorem eq_cursor_of_isCursorRow
    (h : v.Paged n)
    (hvisible : v.list.visible ≠ [])
    {i : Nat} {line : Line}
    (hline : v.body[i]? = some line)
    (hcursorRow : line.IsCursorRow) :
    i = v.list.cursor % n + 1 := by
  rw [body_of_visible hvisible] at hline
  cases i with
  | zero =>
      obtain rfl := Option.some.inj hline
      exact absurd hcursorRow (Line.not_isCursorRow_of_plain rfl)
  | succ i =>
      rw [List.getElem?_cons_succ] at hline
      exact congrArg Nat.succ
        (FilterList.Paged.eq_cursor_of_isCursorRow h (isSome_cells h) hline hcursorRow)

end ListView

/-! ## The frame of a list -/

namespace Host

variable {h : Host} {v : ListView} {n : Nat}

/-- The lines of the top view that the frame has room for. -/
def bodyRows (h : Host) : Nat :=
  h.height - h.framing

theorem framing_eq (h : Host) :
    h.framing = if h.notice = "" then 4 else 5 := by
  unfold framing Frame.reservedRows Frame.headerRows
  by_cases hnotice : h.notice = ""
  · simp [hnotice]
  · have hempty : h.notice.isEmpty = false := by
      simpa using hnotice
    simp [hnotice, hempty]

theorem length_banner? (h : Host) :
    h.framing = 2 + h.banner?.toList.length + 2 := by
  unfold framing Frame.reservedRows Frame.headerRows banner?
  cases h.notice.isEmpty <;> rfl

/-- With room for a line of the top view, a frame gives away nothing but lines of
the top view. -/
theorem frame_eq_stack
    (hroom : 0 < h.bodyRows) :
    h.frame =
      Frame.stack [h.scopeLine, h.crumbLine] h.banner?
        (Frame.resized h.top.body h.bodyRows) h.top.footer := by
  have hframing := h.length_banner?
  have hfooter := h.top.length_footer
  unfold bodyRows at hroom
  have hfixed :
      [h.scopeLine, h.crumbLine].length + h.banner?.toList.length + h.top.footer.length =
        h.framing := by
    simp only [List.length_cons, List.length_nil]
    omega
  have hbanner :
      [h.scopeLine, h.crumbLine].length + h.top.footer.length < h.height := by
    simp only [List.length_cons, List.length_nil]
    omega
  rw [frame, Frame.fit_eq _ _ _ _ (by omega), hfixed, if_pos hbanner, bodyRows,
    Nat.sub_eq_zero_of_le (Nat.le_of_lt hbanner), List.drop_zero]
  rw [List.take_of_length_le]
  simp only [List.length_cons, List.length_nil]
  omega

/-- Around the lines of a list, nothing is drawn on the background of the cursor. -/
theorem mem_frame_iff
    (htop : h.top = .list v)
    (hroom : 0 < h.bodyRows)
    {line : Line}
    (hcursorRow : line.IsCursorRow) :
    line ∈ h.frame ↔ ∃ i < h.bodyRows, v.body[i]? = some line := by
  have hplain : ∀ other : Line, other.style = .plain → line ≠ other := by
    rintro other hother rfl
    exact Line.not_isCursorRow_of_plain hother hcursorRow
  have hbanner : line ∉ h.banner?.toList := by
    unfold banner?
    split
    · exact List.not_mem_nil
    · simpa using hplain _ rfl
  have hstatus : line ≠ v.status := by
    apply hplain
    unfold ListView.status
    split
    · rfl
    · split <;> rfl
  rw [frame_eq_stack hroom, htop, Frame.stack, Frame.resized]
  simp only [View.body, View.footer, ListView.footer, List.mem_append, List.mem_cons,
    List.not_mem_nil, or_false, List.mem_replicate, hplain h.scopeLine rfl,
    hplain h.crumbLine rfl, hplain .blank rfl, hplain (Hint.lineOf _) rfl, hbanner, hstatus,
    and_false, false_or]
  rw [List.mem_iff_getElem?]
  simp only [List.getElem?_take]
  constructor
  · rintro ⟨i, hi⟩
    split at hi
    · rename_i hlt
      exact ⟨i, hlt, hi⟩
    · cases hi
  · rintro ⟨i, hlt, hi⟩
    exact ⟨i, by rw [if_pos hlt, hi]⟩

/-- Does the frame hold the row of the selected item, when there is one? -/
def ShowsSelected (h : Host) : Prop :=
  ∀ v, h.top = .list v → v.list.visible ≠ [] →
    ∃ item entry hint,
      v.selected? = some item ∧
      v.list.visible[v.list.cursor]? = some entry ∧
      Table.row (v.cells item entry hint) true ∈ h.frame

/-- The frame of a list holds the row of the selected item when it has room for the
lines down to the cursor. -/
theorem cursorRow_mem_frame_iff
    (htop : h.top = .list v)
    (hpaged : v.Paged n)
    (hvisible : v.list.visible ≠ [])
    (hroom : 0 < h.bodyRows) :
    h.ShowsSelected ↔ v.list.cursor % n + 1 < h.bodyRows := by
  constructor
  · intro hshown
    obtain ⟨item, entry, hint, -, -, hmem⟩ := hshown v htop hvisible
    have hcursorRow := (Table.isCursorRow_row_iff (v.cells item entry hint) true).mpr rfl
    obtain ⟨i, hi, hline⟩ := (mem_frame_iff htop hroom hcursorRow).mp hmem
    rw [← ListView.eq_cursor_of_isCursorRow hpaged hvisible hline hcursorRow]
    exact hi
  · intro hlt w hw _
    obtain rfl : v = w := by
      rw [htop] at hw
      exact View.list.inj hw
    obtain ⟨item, entry, hint, hitem, hentry, hline⟩ := ListView.body_cursor hpaged hvisible
    have hcursorRow := (Table.isCursorRow_row_iff (v.cells item entry hint) true).mpr rfl
    exact ⟨item, entry, hint, hitem, hentry,
      (mem_frame_iff htop hroom hcursorRow).mpr ⟨_, hlt, hline⟩⟩

end Host
end ClusterNav
