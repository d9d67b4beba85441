import ClusterNav.Proofs.CursorRow

/-!
# Operations on filtered lists

Whatever is done to a filtered list, and in whatever order, the list matches the
values that were set last, in their order.  Its cursor is on a row that is shown, as
soon as any value matches, and no index it holds leads outside of its values.

**Results.**
* `FilterList.mem_matchesFrom_iff`: a list matches exactly the values that its filter
  finds.
* `FilterList.paged_performAll`: every sequence of operations leaves a list in order.
* `filtered_list_in_order`: what this says of the rows, the cursor and the page.
-/

namespace ClusterNav
namespace Select
namespace FilterList

/-! ## Matches -/

/-- The matches are the values found by the filter, each with its index. -/
theorem matchesFrom_eq_filterMap (filter : String) (start : Nat) (values : List String) :
    matchesFrom filter start values =
      (values.zipIdx start).filterMap fun e =>
        (matchPositions? e.1 filter).map (FilterMatch.mk e.2) := by
  induction values generalizing start with
  | nil =>
      rfl
  | cons value rest ih =>
      rw [matchesFrom, List.zipIdx_cons, List.filterMap_cons]
      cases matchPositions? value filter with
      | none =>
          exact ih (start + 1)
      | some positions =>
          exact congrArg (_ :: ·) (ih (start + 1))

theorem mem_matchesFrom_iff
    {filter : String} {values : List String} {entry : FilterMatch} :
    entry ∈ matchesFrom filter 0 values ↔
      ∃ value, values[entry.index]? = some value ∧
        matchPositions? value filter = some entry.positions := by
  rw [matchesFrom_eq_filterMap, List.mem_filterMap]
  constructor
  · rintro ⟨⟨value, i⟩, hvalue, hentry⟩
    obtain ⟨positions, hpositions, rfl⟩ := Option.map_eq_some_iff.mp hentry
    exact ⟨value, List.mk_mem_zipIdx_iff_getElem?.mp hvalue, hpositions⟩
  · rintro ⟨value, hvalue, hpositions⟩
    refine ⟨(value, entry.index), List.mk_mem_zipIdx_iff_getElem?.mpr hvalue, ?_⟩
    rw [hpositions]
    rfl

/-- The matches are in the order of the values. -/
theorem pairwise_matchesFrom (filter : String) (start : Nat) (values : List String) :
    (matchesFrom filter start values).Pairwise (·.index < ·.index) := by
  have hplaces : (values.zipIdx start).Pairwise (·.2 < ·.2) := by
    rw [← List.pairwise_map, List.zipIdx_map_snd]
    exact List.pairwise_lt_range'
  rw [matchesFrom_eq_filterMap]
  refine hplaces.filterMap _ ?_
  intro e e' hlt entry hentry entry' hentry'
  obtain ⟨_, -, rfl⟩ := Option.map_eq_some_iff.mp hentry
  obtain ⟨_, -, rfl⟩ := Option.map_eq_some_iff.mp hentry'
  exact hlt

/-! ## Operations -/

/-- What can be done to a filtered list. -/
inductive Operation
  | setValues (values : List String)
  | setPerPage (n : Nat)
  | startFilter
  | pushChar (c : Char)
  | popChar
  | commit
  | clearFilter
  | selectVisible (position : Nat)
  | moveUp (n : Nat)
  | moveDown (n : Nat)
  | cursorKey (k : Key)
  | editKey (k : Key)
  | jumpToInitial (letter : Char)

def perform (l : FilterList) : Operation → FilterList
  | .setValues values => l.setValues values
  | .setPerPage n => l.setPerPage n
  | .startFilter => l.startFilter
  | .pushChar c => l.pushChar c
  | .popChar => l.popChar
  | .commit => l.commit
  | .clearFilter => l.clearFilter
  | .selectVisible position => l.selectVisible position
  | .moveUp n => l.moveUp n
  | .moveDown n => l.moveDown n
  | .cursorKey k => l.cursorKey k
  | .editKey k => l.editKey k
  | .jumpToInitial letter => l.jumpToInitial letter

def performAll (l : FilterList) (operations : List Operation) : FilterList :=
  operations.foldl perform l

/-- The values of a list after an operation. -/
def Operation.valuesAfter (values : List String) : Operation → List String
  | .setValues others => others
  | _ => values

/-- The number of rows of a page after an operation. -/
def Operation.perPageAfter (n : Nat) : Operation → Nat
  | .setPerPage m => max m 1
  | _ => n

variable {values : List String} {n : Nat} {l : FilterList}

namespace Paged

theorem cursorKey
    (h : l.Paged values n)
    (k : Key) :
    (l.cursorKey k).Paged values n := by
  unfold FilterList.cursorKey
  cases hkey : l.cursorKey? k with
  | none =>
      exact h
  | some m =>
      exact h.cursorKey? hkey

/-- Every operation leaves a list in order. -/
theorem perform
    (h : l.Paged values n)
    (operation : Operation) :
    (l.perform operation).Paged (operation.valuesAfter values) (operation.perPageAfter n) := by
  cases operation with
  | setValues others =>
      exact h.setValues others
  | setPerPage m =>
      exact h.setPerPage m
  | startFilter | commit =>
      exact h.withState _
  | pushChar c =>
      exact h.pushChar c
  | popChar =>
      exact h.popChar
  | clearFilter =>
      exact h.clearFilter
  | selectVisible position | moveUp m | moveDown m =>
      exact h.selectVisible _
  | cursorKey k =>
      exact h.cursorKey k
  | editKey k =>
      exact h.editKey k
  | jumpToInitial letter =>
      exact h.jumpToInitial letter

theorem performAll
    (h : l.Paged values n)
    (operations : List Operation) :
    (l.performAll operations).Paged
      (operations.foldl Operation.valuesAfter values)
      (operations.foldl Operation.perPageAfter n) := by
  induction operations generalizing l values n with
  | nil =>
      exact h
  | cons operation rest ih =>
      exact ih (h.perform operation)

/-! ## What the order of a list says -/

/-- The page lies within the rows, and holds the cursor as soon as there is a row. -/
theorem bounds
    (h : l.Paged values n) :
    l.pageBounds.1 ≤ l.pageBounds.2 ∧ l.pageBounds.2 ≤ l.visible.length ∧
    (l.visible ≠ [] → l.pageBounds.1 ≤ l.cursor ∧ l.cursor < l.pageBounds.2) := by
  have hstart := h.start_add_mod
  have hstop := h.stop_eq
  have hmod : l.cursor % n < n := Nat.mod_lt _ h.pos
  have hcursor := h.cursor_le
  refine ⟨by omega, by omega, ?_⟩
  intro hvisible
  have hlt := h.cursor_lt hvisible
  omega

theorem length_pageEntries
    (h : l.Paged values n) :
    l.pageEntries.length = l.pageBounds.2 - l.pageBounds.1 := by
  obtain ⟨-, hstop, -⟩ := h.bounds
  have hentries : l.pageEntries =
      (l.visible.drop l.pageBounds.1).take (l.pageBounds.2 - l.pageBounds.1) := by
    rfl
  rw [hentries, List.length_take, List.length_drop]
  omega

/-- Every match stands for a value. -/
theorem value?_isSome
    (h : l.Paged values n)
    {entry : FilterMatch}
    (hentry : entry ∈ l.visible) :
    (l.value? entry.index).isSome := by
  rw [h.visible_eq, mem_matchesFrom_iff] at hentry
  obtain ⟨value, hvalue, -⟩ := hentry
  rw [value?, h.values_eq, hvalue]
  rfl

/-- The entry under the cursor is on the page. -/
theorem selected_on_page
    (h : l.Paged values n)
    (hvisible : l.visible ≠ []) :
    ∃ entry, l.visible[l.cursor]? = some entry ∧
      l.pageEntries[l.cursor - l.pageBounds.1]? = some entry ∧
      l.selectedIndex? = some entry.index := by
  have hentry := List.getElem?_eq_getElem (h.cursor_lt hvisible)
  have hstart := h.start_add_mod
  have hplace : l.cursor - l.pageBounds.1 = l.cursor % n := by
    omega
  refine ⟨_, hentry, ?_, ?_⟩
  · rw [hplace, h.pageEntries_cursor, hentry]
  · rw [selectedIndex?, hentry]
    rfl

end Paged

theorem paged_performAll (values : List String) (operations : List Operation) :
    ((ofValues values).performAll operations).Paged
      (operations.foldl Operation.valuesAfter values)
      (operations.foldl Operation.perPageAfter 10) :=
  (paged_ofValues values).performAll operations

end FilterList

open FilterList in
/-- After any operations on a list of values: its values are those set last.  Its rows
are exactly the values that match the filter, in their order and each with an index of
its own.  The cursor is on a row, or on the first place when there is none.  The page
is counted in the rows, has room for one, lies within the rows and holds the cursor.
So all rows have values, the page and its marks are as long as its bounds say, a jump
leads to a row, and the entry under the cursor is shown. -/
theorem filtered_list_in_order (values : List String) (operations : List Operation) :
    let l := (ofValues values).performAll operations
    let start := l.pageBounds.1
    let stop := l.pageBounds.2
    l.values = operations.foldl Operation.valuesAfter values ∧
    (∀ entry, entry ∈ l.visible ↔
      ∃ value, l.values[entry.index]? = some value ∧
        matchPositions? value l.filter = some entry.positions) ∧
    l.visible.Pairwise (·.index < ·.index) ∧
    (l.cursor < l.visible.length ∨ l.visible = [] ∧ l.cursor = 0) ∧
    l.paginator.total = l.visible.length ∧
    1 ≤ l.paginator.perPage ∧
    start ≤ stop ∧ stop ≤ l.visible.length ∧
    (l.visible ≠ [] → start ≤ l.cursor ∧ l.cursor < stop) ∧
    (∀ entry ∈ l.visible, (l.value? entry.index).isSome) ∧
    l.pageEntries.length = stop - start ∧
    l.initialHints.length = stop - start ∧
    (∀ letter position, l.findInitial? letter = some position → position < l.visible.length) ∧
    (l.visible ≠ [] →
      ∃ entry, l.visible[l.cursor]? = some entry ∧
        l.pageEntries[l.cursor - start]? = some entry ∧
        l.selectedIndex? = some entry.index) := by
  intro l start stop
  have h := paged_performAll values operations
  change l.Paged _ _ at h
  have hvisible := h.visible_eq
  rw [← h.values_eq] at hvisible
  obtain ⟨hbounds, hstop, hpage⟩ := h.bounds
  refine ⟨h.values_eq, ?_, ?_, ?_, h.total_eq, ?_, hbounds, hstop, hpage,
    fun entry => h.value?_isSome, h.length_pageEntries, ?_, ?_, h.selected_on_page⟩
  · intro entry
    rw [hvisible, mem_matchesFrom_iff]
  · rw [hvisible]
    exact pairwise_matchesFrom _ _ _
  · by_cases hempty : l.visible = []
    · have hcursor := h.cursor_le
      rw [hempty] at hcursor
      exact Or.inr ⟨hempty, Nat.le_zero.mp hcursor⟩
    · exact Or.inl (h.cursor_lt hempty)
  · rw [h.perPage_eq]
    exact h.pos
  · rw [initialHints, length_firstOfEach, List.length_map]
    exact h.length_pageEntries
  · intro letter position hposition
    exact (List.findIdx?_eq_some_iff_getElem.mp hposition).1

end Select
end ClusterNav
