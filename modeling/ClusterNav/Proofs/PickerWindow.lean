import ClusterNav.Proofs.FramedBoxes
import ClusterNav.Proofs.ToggledRows
import Mathlib.Tactic.SplitIfs

/-!
# The window of a box for columns

The cursor of a box for columns stands on a row that can be chosen, as soon as there is
one.  Headings and locked rows lie between such rows, in any number, and the cursor
passes over them.  The box shows as many rows as it has room for; which is the first
follows the cursor, so that the row under it is always among them, and never further down
than the rows reach.

**Results.**
* `ColumnPicker.freeBelow?_eq_some_iff`, `ColumnPicker.freeAbove?_eq_some_iff`: where the
  cursor goes.
* `ColumnPicker.inWindow_follow`: to follow the cursor puts the window in its place.
* `ColumnPicker.Placed.useAll`: the cursor and the window are in their places after any use.
* `ColumnPicker.InWindow.showsAt_cursor`: how the row under the cursor is drawn.
* `cursor_row_shown`: what this says of the rows that are drawn.
-/

namespace ClusterNav

namespace PickerRow

/-- In this place is a row of a column that is not locked. -/
def FreeAt (rows : List PickerRow) (place : Nat) : Prop :=
  ∃ c, rows[place]? = some (.column c) ∧ c.locked = false

variable {rows : List PickerRow} {place : Nat}

theorem freeAt_iff :
    FreeAt rows place ↔ ∃ row, rows[place]? = some row ∧ row.isFree = true := by
  constructor
  · rintro ⟨c, hrow, hfree⟩
    refine ⟨.column c, hrow, ?_⟩
    rw [isFree, free?_eq_some_iff.mpr ⟨rfl, hfree⟩]
    rfl
  · rintro ⟨row, hrow, hfree⟩
    obtain ⟨c, hc⟩ := Option.isSome_iff_exists.mp hfree
    obtain ⟨rfl, hlocked⟩ := free?_eq_some_iff.mp hc
    exact ⟨c, hrow, hlocked⟩

theorem FreeAt.lt_length
    (h : FreeAt rows place) :
    place < rows.length := by
  obtain ⟨c, hrow, -⟩ := h
  exact (List.getElem?_eq_some_iff.mp hrow).1

theorem freeAt_drop (n : Nat) :
    FreeAt (rows.drop n) place ↔ FreeAt rows (n + place) := by
  simp only [FreeAt, List.getElem?_drop]

/-- The rows above a place, read upwards from it. -/
theorem freeAt_reverse_take (n : Nat) :
    FreeAt (rows.take n).reverse place ↔
      place < (rows.take n).length ∧ FreeAt rows ((rows.take n).length - 1 - place) := by
  constructor
  · intro h
    have hlt := h.lt_length
    rw [List.length_reverse] at hlt
    refine ⟨hlt, ?_⟩
    simp only [FreeAt, List.getElem?_reverse hlt, List.getElem?_take] at h
    rwa [if_pos (by rw [List.length_take] at *; omega)] at h
  · rintro ⟨hlt, h⟩
    simp only [FreeAt, List.getElem?_reverse hlt, List.getElem?_take]
    rwa [if_pos (by rw [List.length_take] at *; omega)]

/-- What a row says: a heading its title, a column whether it is chosen, its title, and
whether it is locked. -/
def legend (checked : List String) : PickerRow → String
  | .heading title => title
  | .column c =>
    " " ++ (if isChecked checked (.column c) then "[x]" else "[ ]") ++ " " ++ c.title ++
      (if c.locked then " (locked)" else "")

end PickerRow

namespace ColumnPicker

open PickerRow

/-! ## Where the cursor goes -/

section Rows

variable {rows : List PickerRow} {cursor place : Nat}

theorem firstFree?_eq_some_iff :
    firstFree? rows = some place ↔
      FreeAt rows place ∧ ∀ other < place, ¬ FreeAt rows other := by
  rw [firstFree?, List.findIdx?_eq_some_iff_getElem]
  simp only [freeAt_iff, List.getElem?_eq_some_iff]
  grind

theorem firstFree?_eq_none_iff :
    firstFree? rows = none ↔ ∀ place, ¬ FreeAt rows place := by
  rw [firstFree?, List.findIdx?_eq_none_iff]
  simp only [freeAt_iff, List.mem_iff_getElem?]
  grind

/-- A free row, with none between it and the cursor. -/
def NearestFree (rows : List PickerRow) (cursor place : Nat) : Prop :=
  FreeAt rows place ∧ ∀ other, min cursor place < other → other < max cursor place →
    ¬ FreeAt rows other

theorem freeBelow?_eq_some_iff :
    freeBelow? rows cursor = some place ↔ cursor < place ∧ NearestFree rows cursor place := by
  simp only [freeBelow?, Option.map_eq_some_iff, firstFree?_eq_some_iff, freeAt_drop, NearestFree]
  constructor
  · rintro ⟨n, ⟨hfree, hleast⟩, rfl⟩
    refine ⟨by omega, hfree, ?_⟩
    intro other hbelow habove
    have hnot := hleast (other - (cursor + 1)) (by omega)
    rwa [show cursor + 1 + (other - (cursor + 1)) = other by omega] at hnot
  · rintro ⟨hlt, hfree, hnone⟩
    refine ⟨place - (cursor + 1), ⟨?_, ?_⟩, by omega⟩
    · rwa [show cursor + 1 + (place - (cursor + 1)) = place by omega]
    · intro other hother
      exact hnone _ (by omega) (by omega)

theorem freeBelow?_eq_none_iff :
    freeBelow? rows cursor = none ↔ ∀ other, cursor < other → ¬ FreeAt rows other := by
  simp only [freeBelow?, Option.map_eq_none_iff, firstFree?_eq_none_iff, freeAt_drop]
  constructor
  · intro h other hother
    have hnot := h (other - (cursor + 1))
    rwa [show cursor + 1 + (other - (cursor + 1)) = other by omega] at hnot
  · intro h n
    exact h _ (by omega)

theorem freeAbove?_eq_some_iff
    (hcursor : cursor ≤ rows.length) :
    freeAbove? rows cursor = some place ↔ place < cursor ∧ NearestFree rows cursor place := by
  have hlen : (rows.take cursor).length = cursor := List.length_take_of_le hcursor
  simp only [freeAbove?, Option.map_eq_some_iff, firstFree?_eq_some_iff, freeAt_reverse_take,
    hlen, NearestFree]
  constructor
  · rintro ⟨n, ⟨⟨hlt, hfree⟩, hleast⟩, rfl⟩
    refine ⟨by omega, hfree, ?_⟩
    intro other hbelow habove hother
    refine hleast (cursor - 1 - other) (by omega) ⟨by omega, ?_⟩
    rwa [show cursor - 1 - (cursor - 1 - other) = other by omega]
  · rintro ⟨hlt, hfree, hnone⟩
    refine ⟨cursor - 1 - place, ⟨⟨by omega, ?_⟩, ?_⟩, by omega⟩
    · rwa [show cursor - 1 - (cursor - 1 - place) = place by omega]
    · rintro other hother ⟨hlt', hfree'⟩
      exact hnone _ (by omega) (by omega) hfree'

theorem freeAbove?_eq_none_iff
    (hcursor : cursor ≤ rows.length) :
    freeAbove? rows cursor = none ↔ ∀ other < cursor, ¬ FreeAt rows other := by
  have hlen : (rows.take cursor).length = cursor := List.length_take_of_le hcursor
  simp only [freeAbove?, Option.map_eq_none_iff, firstFree?_eq_none_iff, freeAt_reverse_take,
    hlen]
  constructor
  · intro h other hother hfree
    refine h (cursor - 1 - other) ⟨by omega, ?_⟩
    rwa [show cursor - 1 - (cursor - 1 - other) = other by omega]
  · rintro h n ⟨hlt, hfree⟩
    exact h _ (by omega) hfree

/-- A box opens on the first free row, where there is one. -/
theorem freeAt_firstFree?
    (hfree : ∃ other, FreeAt rows other) :
    FreeAt rows ((firstFree? rows).getD 0) := by
  cases hfirst : firstFree? rows with
  | none =>
      obtain ⟨other, hother⟩ := hfree
      exact absurd hother (firstFree?_eq_none_iff.mp hfirst other)
  | some first =>
      exact (firstFree?_eq_some_iff.mp hfirst).1

end Rows

/-! ## The window -/

/-- The cursor is on one of the rows that fit, and these do not go further down than they
have to. -/
structure InWindow (v : ColumnPicker) : Prop where
  cursor_lt : v.cursor < v.rows.length
  offset_le_cursor : v.offset ≤ v.cursor
  cursor_lt_end : v.cursor < v.offset + v.pageRows
  offset_le_rest : v.offset ≤ v.rows.length - v.pageRows

variable {v : ColumnPicker}

theorem pageRows_pos (v : ColumnPicker) : 0 < v.pageRows :=
  Nat.le_max_right _ _

/-- To keep within the rows does not push the window off the cursor, as the cursor is on
one of them. -/
theorem inWindow_follow
    (hcursor : v.cursor < v.rows.length) :
    v.follow.InWindow := by
  have hpage := v.pageRows_pos
  have hoffset :
      v.followedOffset ≤ v.cursor ∧ v.cursor < v.followedOffset + v.pageRows ∧
      v.followedOffset ≤ v.rows.length - v.pageRows := by
    dsimp only [followedOffset]
    split_ifs with hfirst habove hbelow
    · rw [Bool.and_eq_true, decide_eq_true_eq] at hfirst
      omega
    · omega
    · omega
    · omega
  exact ⟨hcursor, hoffset.1, hoffset.2.1, hoffset.2.2⟩

/-- A window that does not begin with the first row is full. -/
theorem InWindow.length_shownRows
    (h : v.InWindow)
    (hbelow : 0 < v.offset) :
    v.shownRows.length = v.pageRows := by
  have hrest := h.offset_le_rest
  rw [shownRows, List.length_map, List.length_take, List.length_drop, List.length_zipIdx]
  omega

theorem length_shownRows_le (v : ColumnPicker) : v.shownRows.length ≤ v.pageRows := by
  rw [shownRows, List.length_map]
  exact List.length_take_le _ _

/-- The rows shown are those from the first one on. -/
theorem getElem?_shownRows
    {i : Nat}
    (hi : i < v.pageRows) :
    v.shownRows[i]? =
      v.rows[v.offset + i]?.map fun row => v.rowLine row (v.offset + i == v.cursor) := by
  rw [shownRows, List.getElem?_map, List.getElem?_take_of_lt hi, List.getElem?_drop,
    List.getElem?_zipIdx, Option.map_map]
  simp only [Function.comp_def, Nat.zero_add]

/-- Where the row under the cursor is among those shown. -/
theorem InWindow.cursor_row
    (h : v.InWindow) :
    ∃ row, v.rows[v.cursor]? = some row ∧
      v.shownRows[v.cursor - v.offset]? = some (v.rowLine row true) := by
  have hoffset := h.offset_le_cursor
  have hend := h.cursor_lt_end
  obtain ⟨row, hrow⟩ : ∃ row, v.rows[v.cursor]? = some row :=
    ⟨_, List.getElem?_eq_getElem h.cursor_lt⟩
  refine ⟨row, hrow, ?_⟩
  have hplace : v.offset + (v.cursor - v.offset) = v.cursor := by
    omega
  rw [getElem?_shownRows (by omega), hplace, hrow, Option.map_some, beq_self_eq_true]

/-! ## Keys and sizes -/

/-- What a key does to the cursor: it stays with the window as it is, or is moved to a free
row, and the window follows. -/
inductive CursorChange (v w : ColumnPicker) : Prop
  | stays (checked : List String) (hw : w = { v with checked := checked })
  | moves (place : Nat) (hfree : FreeAt v.rows place)
      (hw : w = follow { v with cursor := place })

theorem cursorChange_moveTo
    {place? : Option Nat}
    (hfree : ∀ place, place? = some place → FreeAt v.rows place) :
    v.CursorChange (v.moveTo place?) := by
  cases place? with
  | none =>
      exact .stays v.checked rfl
  | some place =>
      exact .moves place (hfree place rfl) rfl

theorem cursorChange
    (hcursor : v.cursor ≤ v.rows.length) (k : Key) :
    v.CursorChange (v.key k).view := by
  unfold key
  split
  · unfold toggle
    split
    · exact .stays _ rfl
    · exact .stays v.checked rfl
  split
  case h_3 =>
      exact .stays v.opening rfl
  case h_4 | h_5 =>
      apply cursorChange_moveTo
      intro place hplace
      exact ((freeAbove?_eq_some_iff hcursor).mp hplace).2.1
  case h_6 | h_7 =>
      apply cursorChange_moveTo
      intro place hplace
      exact (freeBelow?_eq_some_iff.mp hplace).2.1
  case h_1 | h_2 | h_8 =>
      exact .stays v.checked rfl

theorem key_up
    {k : Key}
    (hk : k.name = "up" ∨ k.name = "k") :
    (v.key k).view = v.moveTo (freeAbove? v.rows v.cursor) := by
  rcases hk with hk | hk <;> simp [key, Key.isSpace, hk]

theorem key_down
    {k : Key}
    (hk : k.name = "down" ∨ k.name = "j") :
    (v.key k).view = v.moveTo (freeBelow? v.rows v.cursor) := by
  rcases hk with hk | hk <;> simp [key, Key.isSpace, hk]

/-- What a box is told while it is open. -/
inductive Use
  | key (k : Key)
  | size (width height : Nat)

def use (v : ColumnPicker) : Use → ColumnPicker
  | .key k => (v.key k).view
  | .size width height => v.setSize width height

def useAll (v : ColumnPicker) (uses : List Use) : ColumnPicker :=
  uses.foldl use v

/-- The cursor is on a free row if there is one, and in the window. -/
structure Placed (rows : List PickerRow) (v : ColumnPicker) : Prop where
  rows_eq : v.rows = rows
  free : (∃ other, FreeAt rows other) → FreeAt rows v.cursor
  inWindow : v.InWindow

namespace Placed

variable {rows : List PickerRow}

theorem key
    (h : Placed rows v)
    (k : Key) :
    Placed rows (v.key k).view := by
  cases cursorChange (Nat.le_of_lt h.inWindow.cursor_lt) k with
  | stays checked hw =>
      rw [hw]
      exact ⟨h.rows_eq, h.free, ⟨h.inWindow.cursor_lt, h.inWindow.offset_le_cursor,
        h.inWindow.cursor_lt_end, h.inWindow.offset_le_rest⟩⟩
  | moves place hfree hw =>
      rw [hw]
      exact ⟨h.rows_eq, fun _ => h.rows_eq ▸ hfree, inWindow_follow hfree.lt_length⟩

theorem setSize
    (h : Placed rows v)
    (width height : Nat) :
    Placed rows (v.setSize width height) :=
  ⟨h.rows_eq, h.free, inWindow_follow h.inWindow.cursor_lt⟩

theorem useAll
    (h : Placed rows v)
    (uses : List Use) :
    Placed rows (v.useAll uses) := by
  induction uses generalizing v with
  | nil =>
      exact h
  | cons use uses ih =>
      cases use with
      | key k =>
          exact ih (h.key k)
      | size width height =>
          exact ih (h.setSize width height)

/-- A box is in place as soon as it is given a size. -/
theorem opened (choice : ColumnChoice) (width height : Nat) :
    Placed (rowsOf choice) ((ofChoice choice).setSize width height) := by
  refine ⟨rfl, freeAt_firstFree?, inWindow_follow ?_⟩
  change (firstFree? (rowsOf choice)).getD 0 < (rowsOf choice).length
  cases hfirst : firstFree? (rowsOf choice) with
  | none =>
      -- The heading of the columns is there, even with nothing to choose.
      simp [rowsOf]
  | some first =>
      exact (firstFree?_eq_some_iff.mp hfirst).1.lt_length

end Placed
end ColumnPicker

/-! ## What is drawn -/

namespace ColumnPicker

variable {v : ColumnPicker}

/-- A box with room for its borders and a row fits into its area. -/
theorem length_body_le
    (hheight : 3 ≤ v.height) :
    v.body.length ≤ v.height := by
  have hshown := v.length_shownRows_le
  rw [body, Box.length_framed]
  unfold pageRows at hshown
  unfold Box.gap
  omega

theorem exists_rowLine_eq (v : ColumnPicker) (row : PickerRow) (atCursor : Bool) :
    ∃ style, v.rowLine row atCursor = .styled (row.legend v.checked) style := by
  cases row <;> exact ⟨_, rfl⟩

/-- Headings are never drawn on the background of the cursor. -/
theorem hasCursorText_rowLine_iff (row : PickerRow) (atCursor : Bool) :
    (v.rowLine row atCursor).HasCursorText ↔ atCursor = true ∧ ∃ c, row = .column c := by
  cases row with
  | heading title =>
      simp [rowLine, Line.HasCursorText, Line.heading, Line.styled, Line.ofSpan,
        Style.emphasized, Style.colored]
  | column c =>
      cases atCursor <;> cases hlocked : c.locked <;>
        simp [rowLine, rowStyle, hlocked, Line.HasCursorText, Line.styled, Line.ofSpan,
          Style.colored, Style.plain, Style.withBg, Style.emphasized]

/-- A row in its place in the box: it says what it stands for, and no other row has text on
the background of the cursor.  It stands so between the borders, cut to the room there is. -/
structure ShowsAt (v : ColumnPicker) (row : PickerRow) (place : Nat) : Prop where
  shown : v.shownRows[place]? = some (v.rowLine row true)
  text : (v.rowLine row true).text = row.legend v.checked
  alone : ∀ (i : Nat) (line : Line), v.shownRows[i]? = some line →
    (line.HasCursorText ↔ i = place ∧ ∃ c, row = .column c)
  drawn : v.body[Box.gap v.height v.shownRows.length + 1 + place]? =
    some (Box.innerLine (Text.spaces (Box.margin boxWidth v.width)) (Box.inner boxWidth v.width)
      (v.rowLine row true))
  drawn_text :
    (Box.innerLine (Text.spaces (Box.margin boxWidth v.width)) (Box.inner boxWidth v.width)
      (v.rowLine row true)).text =
      Text.spaces (Box.margin boxWidth v.width) ++ "│" ++
        Text.compact (row.legend v.checked) (Box.inner boxWidth v.width) ++
        Text.spaces (Box.inner boxWidth v.width -
          min (Text.width (row.legend v.checked)) (Box.inner boxWidth v.width)) ++ "│"

/-- The row under the cursor is in its place. -/
theorem InWindow.showsAt_cursor
    (h : v.InWindow) :
    ∃ row, v.rows[v.cursor]? = some row ∧ v.ShowsAt row (v.cursor - v.offset) := by
  obtain ⟨row, hrow, hshown⟩ := h.cursor_row
  have hdrawn := Box.getElem?_framed s!"columns: {v.resource}" v.shownRows boxWidth v.width v.height
    _ (List.getElem?_eq_some_iff.mp hshown).1
  rw [hshown] at hdrawn
  obtain ⟨style, hline⟩ := v.exists_rowLine_eq row true
  refine ⟨row, hrow, hshown, ?_, ?_, hdrawn, ?_⟩
  · rw [hline, Line.styled, Line.ofSpan, Line.text_cons, Line.text_nil, String.append_empty]
  · intro i line hi
    have hoffset := h.offset_le_cursor
    have hpage : i < v.pageRows :=
      Nat.lt_of_lt_of_le (List.getElem?_eq_some_iff.mp hi).1 v.length_shownRows_le
    rw [getElem?_shownRows hpage] at hi
    obtain ⟨other, hother, rfl⟩ := Option.map_eq_some_iff.mp hi
    rw [hasCursorText_rowLine_iff, beq_iff_eq]
    have hplace : v.offset + i = v.cursor ↔ i = v.cursor - v.offset := by
      omega
    rw [hplace]
    refine and_congr_right fun hcursor => ?_
    have hsame : v.offset + i = v.cursor := hplace.mpr hcursor
    rw [hsame, hrow] at hother
    rw [Option.some.inj hother]
  · rw [hline, Box.text_innerLine, Line.styled, Line.ofSpan, Box.shownText_singleton]
    simp [Line.width, Span.width]

end ColumnPicker

open ColumnPicker PickerRow

/-- In all uses of a box of any size: the cursor is on a row that can be chosen, if there
is one; the keys for down and up take it to the nearest such row on that side, and leave
the box as it is when there is none.  The window is where the cursor is and has no empty
place at its end unless it begins with the first row.  A box in at least three rows fits
in them, and the row under the cursor is drawn as far down as the cursor is in the window,
with what it says and alone as the one under the cursor. -/
theorem cursor_row_shown (choice : ColumnChoice) (width height : Nat) (uses : List Use) :
    let v := ((ofChoice choice).setSize width height).useAll uses
    v.rows = rowsOf choice ∧
    ((∃ other, FreeAt v.rows other) → FreeAt v.rows v.cursor) ∧
    (∀ k : Key, k.name = "down" ∨ k.name = "j" →
      (v.cursor < (v.key k).view.cursor ∧ NearestFree v.rows v.cursor (v.key k).view.cursor) ∨
      ((v.key k).view = v ∧ ∀ other, v.cursor < other → ¬ FreeAt v.rows other)) ∧
    (∀ k : Key, k.name = "up" ∨ k.name = "k" →
      ((v.key k).view.cursor < v.cursor ∧ NearestFree v.rows v.cursor (v.key k).view.cursor) ∨
      ((v.key k).view = v ∧ ∀ other < v.cursor, ¬ FreeAt v.rows other)) ∧
    v.offset ≤ v.cursor ∧ v.cursor < v.offset + v.pageRows ∧
    v.offset ≤ v.rows.length - v.pageRows ∧
    (0 < v.offset → v.shownRows.length = v.pageRows) ∧
    (3 ≤ v.height → v.body.length ≤ v.height ∧
      ∃ row, v.rows[v.cursor]? = some row ∧ v.ShowsAt row (v.cursor - v.offset)) := by
  intro v
  have hplaced : Placed (rowsOf choice) v := (Placed.opened choice width height).useAll uses
  have hwindow := hplaced.inWindow
  have hcursor := Nat.le_of_lt hwindow.cursor_lt
  refine ⟨hplaced.rows_eq, hplaced.rows_eq ▸ hplaced.free, ?_, ?_, hwindow.offset_le_cursor,
    hwindow.cursor_lt_end, hwindow.offset_le_rest, hwindow.length_shownRows,
    fun hheight => ⟨length_body_le hheight, hwindow.showsAt_cursor⟩⟩
  · intro k hk
    rw [key_down hk]
    cases hbelow : freeBelow? v.rows v.cursor with
    | none =>
        exact .inr ⟨rfl, freeBelow?_eq_none_iff.mp hbelow⟩
    | some place =>
        exact .inl (freeBelow?_eq_some_iff.mp hbelow)
  · intro k hk
    rw [key_up hk]
    cases habove : freeAbove? v.rows v.cursor with
    | none =>
        exact .inr ⟨rfl, (freeAbove?_eq_none_iff hcursor).mp habove⟩
    | some place =>
        exact .inl ((freeAbove?_eq_some_iff hcursor).mp habove)

end ClusterNav
