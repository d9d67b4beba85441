import ClusterNav.Proofs.CursorRow
import ClusterNav.View.Detail
import Mathlib.Algebra.Ring.Nat
import Mathlib.Data.List.Forall2

/-!
# Columns of tables

The lines of a table are drawn apart from each other: a heading from names and widths, a
row from cells that are cut into spans by the styles of their characters, the lines of
the containers of an item in a way of their own.  All of them put texts of fixed widths
side by side with one separator between two.  So where a column stands depends on the
widths alone, and the columns of lines with the same widths stand below each other.

**Results.**
* `Table.exists_intercalate_eq`: where a part stands in parts joined by a separator.
* `Table.Aligned`: a line whose columns stand where the widths say.
* `Table.cells_row`: a row shows the characters of its cells, each in its own style.
* `table_columns_aligned`: headings, rows, lists and the containers of an item.
-/

namespace ClusterNav

/-! ## Joined parts -/

namespace Table

section Joined

variable {α β : Type} {parts : List (List α)}

/-- Where a column starts: after the columns before it, each with a separator. -/
def columnStart (widths : List Nat) (k : Nat) : Nat :=
  (widths.take k).sum + k

theorem columnStart_cons_succ (width : Nat) (widths : List Nat) (k : Nat) :
    columnStart (width :: widths) (k + 1) = width + 1 + columnStart widths k := by
  simp only [columnStart, List.take_succ_cons, List.sum_cons]
  omega

/-- The characters of joined parts are those of the parts and the separators. -/
theorem length_intercalate (gap : α) (parts : List (List α)) :
    ([gap].intercalate parts).length = (parts.map List.length).sum + (parts.length - 1) := by
  induction parts with
  | nil =>
      rfl
  | cons part rest ih =>
      cases rest with
      | nil =>
          simp
      | cons next rest =>
          rw [List.intercalate_cons_cons, List.length_append, List.length_append, ih]
          simp only [List.map_cons, List.sum_cons, List.length_cons, List.length_nil]
          omega

/-- Each part stands where its column starts, behind a separator unless it is the first. -/
theorem exists_intercalate_eq
    (gap : α) {k : Nat} {part : List α}
    (hpart : parts[k]? = some part) :
    ∃ before after, [gap].intercalate parts = before ++ part ++ after ∧
      before.length = columnStart (parts.map List.length) k ∧
      (0 < k → before.getLast? = some gap) := by
  induction parts generalizing k with
  | nil =>
      cases hpart
  | cons first rest ih =>
      cases k with
      | zero =>
          obtain rfl : first = part := Option.some.inj hpart
          cases rest with
          | nil =>
              exact ⟨[], [], by simp, rfl, nofun⟩
          | cons next rest =>
              refine ⟨[], [gap] ++ [gap].intercalate (next :: rest), ?_, rfl, nofun⟩
              rw [List.intercalate_cons_cons, List.nil_append, List.append_assoc]
      | succ k =>
          rw [List.getElem?_cons_succ] at hpart
          obtain ⟨before, after, hjoined, hlength, hgap⟩ := ih hpart
          have hrest : rest ≠ [] := by
            rintro rfl
            cases hpart
          refine ⟨first ++ gap :: before, after, ?_, ?_, ?_⟩
          · rw [List.intercalate_cons_of_ne_nil hrest, hjoined]
            simp
          · rw [List.map_cons, columnStart_cons_succ, ← hlength, List.length_append,
              List.length_cons]
            omega
          · intro _
            rw [List.getLast?_append, List.getLast?_cons]
            cases k with
            | zero =>
                have hempty : before = [] := List.length_eq_zero_iff.mp hlength
                simp [hempty]
            | succ k =>
                simp [hgap (Nat.succ_pos k)]

theorem flatMap_intercalate (f : α → List β) (sep : List α) (parts : List (List α)) :
    (sep.intercalate parts).flatMap f =
      (sep.flatMap f).intercalate (parts.map (·.flatMap f)) := by
  induction parts with
  | nil =>
      rfl
  | cons part rest ih =>
      cases rest with
      | nil =>
          simp
      | cons next rest =>
          rw [List.intercalate_cons_cons, List.flatMap_append, List.flatMap_append, ih]
          simp only [List.map_cons, List.intercalate_cons_cons]

theorem map_intercalate (f : α → β) (sep : List α) (parts : List (List α)) :
    (sep.intercalate parts).map f = (sep.map f).intercalate (parts.map (·.map f)) := by
  have h := flatMap_intercalate (fun a => [f a]) sep parts
  simpa only [← List.map_eq_flatMap] using h

end Joined

/-! ## Lines of fixed columns -/

/-- What is shown of a text in a column: the text and spaces, or as much of the text as
leaves room for an ellipsis, if there is any room. -/
inductive Fitted (text : List Char) (width : Nat) : List Char → Prop
  | padded (fits : text.length ≤ width) :
      Fitted text width (text ++ List.replicate (width - text.length) ' ')
  | cut (long : width < text.length) :
      Fitted text width ((text.take (width - 1) ++ ['…']).take width)

theorem fitted_fit (text : String) (width : Nat) :
    Fitted text.toList width (Text.fit text width).toList := by
  rw [Text.toList_fit]
  unfold Text.compactChars
  split
  · rename_i fits
    exact .padded fits
  · rename_i hlong
    have long : width < text.toList.length := Nat.lt_of_not_le hlong
    have hcut := Fitted.cut long
    cases width with
    | zero =>
        exact hcut
    | succ n =>
        have hlength : (text.toList.take n ++ ['…']).length = n + 1 := by
          rw [List.length_append, List.length_take, List.length_singleton]
          omega
        rw [Nat.add_sub_cancel, List.take_of_length_le (Nat.le_of_eq hlength)] at hcut
        rw [Text.padChars, hlength, Nat.sub_self, List.replicate_zero, List.append_nil]
        exact hcut

/-- A line shows texts side by side: each as it fits into the width of its column, and
with one separator between two. -/
structure Aligned (widths : List Nat) (texts : List String) (line : Line) : Prop where
  columns_eq : texts.length = widths.length
  length_eq : line.text.length = widths.sum + (widths.length - 1)
  column : ∀ k text width, texts[k]? = some text → widths[k]? = some width →
    Fitted text.toList width ((line.text.toList.drop (columnStart widths k)).take width)
  separator : ∀ k, 0 < k → k < widths.length →
    line.text.toList[columnStart widths k - 1]? = some ' '

/-- The characters of a line of fixed columns. -/
def shown (widths : List Nat) (texts : List String) : List Char :=
  [' '].intercalate ((texts.zip widths).map fun e => (Text.fit e.1 e.2).toList)

section Aligned

variable {widths : List Nat} {texts : List String} {line : Line}

theorem map_length_fit
    (hcolumns : texts.length = widths.length) :
    ((texts.zip widths).map fun e => (Text.fit e.1 e.2).toList).map List.length = widths := by
  have hwidths : (texts.zip widths).map Prod.snd = widths :=
    List.map_snd_zip (Nat.le_of_eq hcolumns.symm)
  rw [List.map_map]
  simpa only [Function.comp_def, Text.length_toList_fit] using hwidths

/-- A text stands where its column starts. -/
theorem exists_shown_eq
    (hcolumns : texts.length = widths.length)
    {k width : Nat} {text : String}
    (htext : texts[k]? = some text) (hwidth : widths[k]? = some width) :
    ∃ before after, shown widths texts = before ++ (Text.fit text width).toList ++ after ∧
      before.length = columnStart widths k ∧
      (0 < k → before.getLast? = some ' ') := by
  have hzip : (texts.zip widths)[k]? = some (text, width) :=
    List.getElem?_zip_eq_some.mpr ⟨htext, hwidth⟩
  have hpart : ((texts.zip widths).map fun e => (Text.fit e.1 e.2).toList)[k]? =
      some (Text.fit text width).toList := by
    rw [List.getElem?_map, hzip]
    rfl
  obtain ⟨before, after, hshown, hstart, hgap⟩ := exists_intercalate_eq ' ' hpart
  rw [map_length_fit hcolumns] at hstart
  exact ⟨before, after, hshown, hstart, hgap⟩

theorem aligned_of_text_eq
    (hcolumns : texts.length = widths.length)
    (hline : line.text.toList = shown widths texts) :
    Aligned widths texts line := by
  refine ⟨hcolumns, ?_, ?_, ?_⟩
  · rw [← String.length_toList, hline, shown, length_intercalate, map_length_fit hcolumns,
      List.length_map, List.length_zip, hcolumns, Nat.min_self]
  · intro k text width htext hwidth
    obtain ⟨before, after, hshown, hstart, -⟩ := exists_shown_eq hcolumns htext hwidth
    rw [hline, hshown, ← hstart, List.append_assoc, List.drop_left,
      List.take_left' (Text.length_toList_fit text width)]
    exact fitted_fit text width
  · intro k hpos hk
    have htext := List.getElem?_eq_getElem (hcolumns ▸ hk)
    have hwidth := List.getElem?_eq_getElem hk
    obtain ⟨before, after, hshown, hstart, hgap⟩ := exists_shown_eq hcolumns htext hwidth
    have hlast := hgap hpos
    rw [List.getLast?_eq_getElem?, hstart] at hlast
    rw [hline, hshown, List.append_assoc, List.getElem?_append_left, hlast]
    rw [← hstart]
    obtain ⟨hlt, -⟩ := List.getElem?_eq_some_iff.mp hlast
    omega

/-- A line of the texts and widths of some entries. -/
theorem aligned_of_entries
    {ε : Type} {entries : List ε} (text : ε → String) (width : ε → Nat)
    (hline : line.text.toList =
      [' '].intercalate (entries.map fun e => (Text.fit (text e) (width e)).toList)) :
    Aligned (entries.map width) (entries.map text) line := by
  apply aligned_of_text_eq (by rw [List.length_map, List.length_map])
  rw [hline, shown, List.zip_map', List.map_map]
  rfl

end Aligned

/-! ## Headings and rows -/

/-- Columns of spans show their characters with a plain separator between two. -/
theorem cells_columns (parts : List (List Span)) (style : Style) :
    Line.cells ⟨columns parts, style⟩ =
      [(' ', Style.plain)].intercalate (parts.map (·.flatMap Span.cells)) :=
  flatMap_intercalate Span.cells gap parts

theorem toList_text_columns (parts : List (List Span)) (style : Style) :
    (Line.text ⟨columns parts, style⟩).toList =
      [' '].intercalate (parts.map fun part => (part.flatMap Span.cells).map Prod.fst) := by
  rw [Line.toList_text, cells_columns, map_intercalate, List.map_map]
  rfl

theorem map_fst_cells (text : String) (style : Style) :
    ([Span.mk text style].flatMap Span.cells).map Prod.fst = text.toList := by
  simp [Span.cells, Function.comp_def]

theorem aligned_header (names : List (String × Nat)) :
    Aligned (names.map Prod.snd) (names.map Prod.fst) (header names) := by
  apply aligned_of_entries Prod.fst Prod.snd
  rw [header, toList_text_columns, List.map_map]
  simp only [Function.comp_def, map_fst_cells]

end Table

namespace Cell

theorem map_fst_styledFrom (cell : Cell) (position : Nat) (cs : List Char) :
    (cell.styledFrom position cs).map Prod.fst = cs := by
  induction cs generalizing position with
  | nil =>
      rfl
  | cons c rest ih =>
      rw [styledFrom, List.map_cons, ih]

theorem getElem?_styledFrom (cell : Cell) (position : Nat) (cs : List Char) (p : Nat) :
    (cell.styledFrom position cs)[p]? = cs[p]?.map fun c => (c, cell.styleAt (position + p)) := by
  induction cs generalizing position p with
  | nil =>
      rfl
  | cons c rest ih =>
      cases p with
      | zero =>
          rfl
      | succ p =>
          rw [styledFrom, List.getElem?_cons_succ, List.getElem?_cons_succ, ih,
            Nat.succ_add_eq_add_succ]

theorem map_fst_cells (cell : Cell) :
    cell.cells.map Prod.fst = (Text.fit cell.text cell.width).toList :=
  cell.map_fst_styledFrom 0 _

theorem length_cells (cell : Cell) : cell.cells.length = cell.width := by
  rw [← List.length_map Prod.fst, cell.map_fst_cells, Text.length_toList_fit]

/-- A matched character has the style of matches, and the hint is underlined. -/
theorem styleAt_eq (cell : Cell) (p : Nat) :
    cell.styleAt p =
      let own := if p ∈ cell.marks then (cell.style.withFg .accent).emphasized else cell.style
      if cell.hint = some p then own.underline else own := by
  simp only [styleAt, List.contains_iff_mem, beq_iff_eq]

end Cell

namespace Table

/-- A row shows the characters of its cells. -/
theorem cells_row (cells : List Cell) (selected : Bool) :
    (row cells selected).cells = [(' ', Style.plain)].intercalate (cells.map Cell.cells) := by
  rw [row, cells_columns, List.map_map]
  simp only [Function.comp_def, Cell.cells_spans]

theorem aligned_row (cells : List Cell) (selected : Bool) :
    Aligned (cells.map Cell.width) (cells.map Cell.text) (row cells selected) := by
  apply aligned_of_entries Cell.text Cell.width
  rw [Line.toList_text, cells_row, map_intercalate, List.map_map]
  simp only [Function.comp_def, Cell.map_fst_cells]
  rfl

/-- In the columns of a row every character has the style that its cell gives it. -/
theorem getElem?_cells_row
    {cells : List Cell} {k p : Nat} {cell : Cell}
    (hcell : cells[k]? = some cell)
    (hp : p < cell.width)
    (selected : Bool) :
    ∃ c, (row cells selected).cells[columnStart (cells.map Cell.width) k + p]? =
      some (c, cell.styleAt p) := by
  have hpart : (cells.map Cell.cells)[k]? = some cell.cells := by
    rw [List.getElem?_map, hcell]
    rfl
  have hlengths : (cells.map Cell.cells).map List.length = cells.map Cell.width := by
    rw [List.map_map]
    simp only [Function.comp_def, Cell.length_cells]
  have hshown : p < cell.cells.length := by
    rw [cell.length_cells]
    exact hp
  have hfitted : p < (Text.fit cell.text cell.width).toList.length := by
    rw [Text.length_toList_fit]
    exact hp
  obtain ⟨before, after, hrow, hstart, -⟩ :=
    exists_intercalate_eq (' ', Style.plain) hpart
  rw [hlengths] at hstart
  refine ⟨(Text.fit cell.text cell.width).toList[p], ?_⟩
  rw [cells_row, hrow, ← hstart, List.append_assoc, List.getElem?_append_right (by omega),
    Nat.add_sub_cancel_left, List.getElem?_append_left hshown, Cell.cells,
    Cell.getElem?_styledFrom, List.getElem?_eq_getElem hfitted, Nat.zero_add]
  rfl

end Table

/-! ## The containers of an item -/

namespace DetailView

open Table

theorem length_gridWidths (rows : List ContainerRow) (width : Nat) :
    (gridWidths rows width).length = gridColumns.length := by
  rfl

section Grid

variable {widths : List Nat}

/-- Texts made from the columns of the grid stand in the columns of their widths. -/
theorem aligned_of_grid
    {line : Line} {text : String × (ContainerRow → String) → String}
    (hlength : widths.length = gridColumns.length)
    (hline : line.text.toList =
      [' '].intercalate ((gridColumns.zip widths).map fun e => (Text.fit (text e.1) e.2).toList)) :
    Aligned widths (gridColumns.map text) line := by
  have htexts : (gridColumns.zip widths).map (fun e => text e.1) = gridColumns.map text := by
    have hcolumns : (gridColumns.zip widths).map Prod.fst = gridColumns :=
      List.map_fst_zip (Nat.le_of_eq hlength.symm)
    rw [← hcolumns, List.map_map, hcolumns]
    rfl
  have hwidths : (gridColumns.zip widths).map Prod.snd = widths :=
    List.map_snd_zip (Nat.le_of_eq hlength)
  have haligned := aligned_of_entries _ Prod.snd hline
  rw [hwidths, htexts] at haligned
  exact haligned

theorem aligned_gridHeader
    (hlength : widths.length = gridColumns.length) :
    Aligned widths (gridColumns.map Prod.fst) (gridHeader widths) := by
  apply aligned_of_grid hlength
  rw [gridHeader, Line.toList_text]
  simp [Line.styled, Line.ofSpan, Line.cells, Span.cells, Function.comp_def]

theorem aligned_gridRow
    (hlength : widths.length = gridColumns.length)
    (row : ContainerRow) :
    Aligned widths (gridColumns.map fun column => column.2 row) (gridRow widths row) := by
  apply aligned_of_grid hlength
  rw [gridRow, toList_text_columns, List.map_map]
  simp only [Function.comp_def, map_fst_cells]

end Grid

/-- All lines of the grid stand in the same columns, whatever the rows and the width. -/
theorem aligned_grid (rows : List ContainerRow) (width : Nat) :
    ∃ header lines,
      grid rows width = header :: lines ∧
      Aligned (gridWidths rows width) (gridColumns.map Prod.fst) header ∧
      List.Forall₂
        (fun row line =>
          Aligned (gridWidths rows width) (gridColumns.map fun column => column.2 row) line)
        rows lines := by
  have hlength := length_gridWidths rows width
  refine ⟨_, _, rfl, aligned_gridHeader hlength, ?_⟩
  rw [List.forall₂_map_right_iff, List.forall₂_same]
  exact fun row _ => aligned_gridRow hlength row

end DetailView

/-! ## Lists -/

namespace ListView

open Select Table

variable (v : ListView)

theorem width_cell
    (item : Item) (row : Dict String) (entry : FilterMatch) (hint : Bool) (column : Column) :
    (v.cell item row entry hint column).width = column.width := by
  unfold cell
  split <;> rfl

theorem map_width_cells (item : Item) (entry : FilterMatch) (hint : Bool) :
    (v.cells item entry hint).map Cell.width = v.shownColumns.map (·.width) := by
  rw [cells, List.map_map]
  simp only [Function.comp_def, width_cell]

/-- The rows of a list stand in the columns of its heading. -/
theorem aligned_body
    (hvisible : v.list.visible ≠ []) :
    ∃ header lines,
      v.body = header :: lines ∧
      Aligned (v.shownColumns.map (·.width)) (v.shownColumns.map (·.name)) header ∧
      ∀ line ∈ lines, ∃ entry item hint,
        entry ∈ v.list.pageEntries ∧ v.item? entry = some item ∧
        Aligned (v.shownColumns.map (·.width)) ((v.cells item entry hint).map Cell.text) line := by
  refine ⟨_, _, body_of_visible hvisible, ?_, ?_⟩
  · have h := aligned_header (v.shownColumns.map fun c => (c.name, c.width))
    rwa [List.map_map, List.map_map] at h
  · intro line hline
    obtain ⟨⟨⟨entry, first⟩, position⟩, hplace, hrow⟩ := List.mem_filterMap.mp hline
    obtain ⟨cells, hcells, rfl⟩ := Option.map_eq_some_iff.mp hrow
    obtain ⟨item, hitem, rfl⟩ := Option.map_eq_some_iff.mp hcells
    have hentry := (List.of_mem_zip (List.fst_mem_of_mem_zipIdx hplace)).1
    refine ⟨entry, item, v.findArmed && first, hentry, hitem, ?_⟩
    rw [← v.map_width_cells item entry (v.findArmed && first)]
    exact aligned_row _ _

end ListView

/-! ## Tables -/

open Table in
/-- A heading and a row of the same widths stand in the same columns, and so do the lines
of every list and of the containers of every item.  How the characters of a row are cut
into spans does not show: each has the style of its cell, that of matches where the cell
is marked, and is underlined where the hint is. -/
theorem table_columns_aligned
    (columns : List (String × Nat)) (cells : List Cell) (selected : Bool)
    (hwidths : columns.map Prod.snd = cells.map Cell.width) :
    Aligned (columns.map Prod.snd) (columns.map Prod.fst) (header columns) ∧
    Aligned (columns.map Prod.snd) (cells.map Cell.text) (row cells selected) ∧
    (header columns).text.length = (row cells selected).text.length ∧
    (∀ k cell p, cells[k]? = some cell → p < cell.width →
      ∃ c, (row cells selected).cells[columnStart (columns.map Prod.snd) k + p]? =
        some (c,
          let own := if p ∈ cell.marks then (cell.style.withFg .accent).emphasized else cell.style
          if cell.hint = some p then own.underline else own)) ∧
    (∀ v : ListView, v.list.visible ≠ [] →
      ∃ header lines,
        v.body = header :: lines ∧
        Aligned (v.shownColumns.map (·.width)) (v.shownColumns.map (·.name)) header ∧
        ∀ line ∈ lines, ∃ entry item hint,
          entry ∈ v.list.pageEntries ∧ v.item? entry = some item ∧
          Aligned (v.shownColumns.map (·.width)) ((v.cells item entry hint).map Cell.text) line) ∧
    ∀ rows width, ∃ header lines,
      DetailView.grid rows width = header :: lines ∧
      Aligned (DetailView.gridWidths rows width) (DetailView.gridColumns.map Prod.fst) header ∧
      List.Forall₂
        (fun row line =>
          Aligned (DetailView.gridWidths rows width)
            (DetailView.gridColumns.map fun column => column.2 row) line)
        rows lines := by
  have hheader := aligned_header columns
  have hrow := aligned_row cells selected
  rw [← hwidths] at hrow
  refine ⟨hheader, hrow, ?_, ?_, fun v => v.aligned_body, DetailView.aligned_grid⟩
  · rw [hheader.length_eq, hrow.length_eq]
  · intro k cell p hcell hp
    obtain ⟨c, hc⟩ := getElem?_cells_row hcell hp selected
    rw [Cell.styleAt_eq] at hc
    rw [hwidths]
    exact ⟨c, hc⟩

/-- The second letter of a name, which a filter matched, and the age of the item. -/
theorem table_columns_aligned_redis :
    let columns := [("NAME", 6), ("AGE", 3)]
    let cells : List Cell :=
      [{ text := "redis", width := 6, marks := [1], hint := some 0 }, .muted "40d" 3]
    columns.map Prod.snd = cells.map Cell.width ∧
    (Table.header columns).text.length = (Table.row cells true).text.length ∧
    (∃ c, (Table.row cells true).cells[1]? =
      some (c, (Style.colored .accent).emphasized)) ∧
    ∃ c, (Table.row cells true).cells[8]? = some (c, Style.colored .muted) := by
  intro columns cells
  have hwidths : columns.map Prod.snd = cells.map Cell.width := rfl
  obtain ⟨-, -, hlength, hstyles, -⟩ := table_columns_aligned columns cells true hwidths
  exact ⟨hwidths, hlength, hstyles 0 _ 1 rfl (by decide), hstyles 1 _ 1 rfl (by decide)⟩

end ClusterNav
