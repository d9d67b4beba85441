import ClusterNav.Proofs.LogChanges
import Mathlib.Data.List.Forall2
import Mathlib.Tactic.ByContra

/-!
# The rows of a log

A log holds the lines its container wrote, and apart from them the rows it shows, laid
out for a width, and how many lines a search found.  Not everything that happens makes
it lay out its lines or count again, and yet the rows always are those of the lines it
holds, and the count is that of these lines.

**Results.**
* `LogView.cells_logLine`: a laid-out line has the characters of the line it shows.
* `LogView.broken_wrapped`: how a line is broken at a width.
* `log_rows_current`: the rows and the count after any run.
-/

namespace ClusterNav

open Select (matchPositions?)

/-! ## One line -/

namespace LogView

/-- The positions of a line that a search finds. -/
def hits (needle : Option String) (line : String) : List Nat :=
  (needle.bind (matchPositions? line)).getD []

theorem map_fst_markedCells (style : Style) (positions : List Nat) (line : String) :
    (markedCells style positions line).map Prod.fst = line.toList := by
  rw [markedCells, List.map_map]
  exact List.zipIdx_map_fst 0 line.toList

/-- Where nothing is found, all characters have one style. -/
theorem markedCells_nil (style : Style) (line : String) :
    markedCells style [] line = line.toList.map fun c => (c, style) := by
  have hchars : line.toList.zipIdx.map Prod.fst = line.toList :=
    List.zipIdx_map_fst 0 line.toList
  calc markedCells style [] line
      = (line.toList.zipIdx.map Prod.fst).map fun c => (c, style) := by
        rw [List.map_map]
        rfl
    _ = line.toList.map fun c => (c, style) := by rw [hchars]

/-- The characters of a laid-out line: those of the line, in the style of its level or
as found. -/
theorem cells_logLine (needle : Option String) (line : String) :
    (logLine needle line).cells = markedCells (levelStyle line) (hits needle line) line := by
  unfold logLine hits
  cases needle.bind (matchPositions? line) with
  | none =>
      rw [Option.getD_none, markedCells_nil]
      simp [Line.styled, Line.ofSpan, Line.cells, Span.cells]
  | some positions =>
      rw [Option.getD_some]
      exact Span.cells_ofCells _

theorem text_logLine (needle : Option String) (line : String) :
    (logLine needle line).text = line := by
  rw [← String.toList_inj, Line.toList_text, cells_logLine, map_fst_markedCells]

/-! ## Broken lines -/

/-- A list is cut into pieces of the size asked for and a last one, which is not longer,
and not empty unless the list is. -/
theorem exists_pieces_eq {α : Type} (size : Nat) (l : List α) :
    ∃ full last, pieces size l = full ++ [last] ∧
      (∀ piece ∈ full, piece.length = max size 1) ∧
      last.length ≤ max size 1 ∧ (l ≠ [] → last ≠ []) := by
  fun_induction pieces size l with
  | case1 l hshort =>
      exact ⟨[], l, rfl, by simp, hshort, id⟩
  | case2 l hlong ih =>
      obtain ⟨full, last, hpieces, hfull, hlast, hnonempty⟩ := ih
      refine ⟨l.take (max size 1) :: full, last, by rw [hpieces]; rfl, ?_, hlast, fun _ => ?_⟩
      · intro piece hpiece
        rcases List.mem_cons.mp hpiece with rfl | hpiece
        · rw [List.length_take]
          omega
        · exact hfull piece hpiece
      · apply hnonempty
        rw [← List.length_pos_iff, List.length_drop]
        omega

/-- The rows of a line that is broken at a width.  All rows but the last one are as wide
as asked for, and at least one character wide; the last one is no wider, and is not
empty; together they are the line.  An empty line is one empty row. -/
def Broken (width : Nat) (line : String) (rows : List String) : Prop :=
  if line = "" then rows = [""]
  else
    String.join rows = line ∧
    ∃ full last, rows = full ++ [last] ∧ (∀ row ∈ full, row.length = max width 1) ∧
      last.length ≤ max width 1 ∧ last ≠ ""

theorem join_wrapped (line : String) (width : Nat) :
    String.join (wrapped line width) = line := by
  have hflatten := flatten_pieces width line.toList
  rw [← String.toList_inj, String.toList_join, wrapped, List.flatMap_map]
  simpa [List.flatMap_def] using hflatten

theorem broken_wrapped (line : String) (width : Nat) :
    Broken width line (wrapped line width) := by
  unfold Broken
  split
  · rename_i hempty
    subst hempty
    simp [wrapped, pieces]
  · rename_i hline
    refine ⟨join_wrapped line width, ?_⟩
    obtain ⟨full, last, hpieces, hfull, hlast, hnonempty⟩ := exists_pieces_eq width line.toList
    refine ⟨full.map String.ofList, String.ofList last, ?_, ?_, ?_, ?_⟩
    · rw [wrapped, hpieces, List.map_append, List.map_singleton]
    · intro row hrow
      obtain ⟨piece, hpiece, rfl⟩ := List.mem_map.mp hrow
      rw [String.length_ofList]
      exact hfull piece hpiece
    · rw [String.length_ofList]
      exact hlast
    · have hchars : line.toList ≠ [] := by
        simpa using hline
      simpa using hnonempty hchars

/-! ## The rows that are shown -/

/-- The texts of the rows of a log, laid out as it is. -/
def texts (v : LogView) : List String :=
  if v.rows.isEmpty then [s!"No logs in the last {v.window.label}."] else v.rows

theorem map_text_layout (v : LogView) : v.layout.map Line.text = v.texts := by
  unfold layout texts
  split
  · rfl
  · simp [Function.comp_def, text_logLine]

/-- The rows shown are those of the lines that the log holds. -/
def RowsShown (v : LogView) : Prop :=
  v.viewport.lines.map Line.text = v.texts

variable {v w : LogView}

theorem texts_congr
    (hraw : w.raw = v.raw)
    (hwrapping : w.wrapping = v.wrapping)
    (hwindow : w.window = v.window)
    (hwidth : v.wrapping = true → w.viewport.width = v.viewport.width) :
    w.texts = v.texts := by
  have hrows : w.rows = v.rows := by
    unfold rows
    rw [hraw, hwrapping]
    split
    · rename_i h
      rw [hwidth h]
    · rfl
  rw [texts, texts, hrows, hwindow]

/-- A log that lays out its lines shows them. -/
theorem rowsShown_relayout (v : LogView) : v.relayout.RowsShown := by
  unfold RowsShown
  rw [lines_relayout, map_text_layout]
  exact (texts_congr (v := v) (w := v.relayout) rfl rfl rfl fun _ => width_relayout v).symm

theorem rowsShown_withLines (v : LogView) (lines : List String) :
    (v.withLines lines).RowsShown := by
  obtain ⟨search, -, -, hlines⟩ := v.withLines_eq lines
  rw [hlines]
  exact rowsShown_relayout _

/-- A log that shows its rows does so wherever its window stands. -/
theorem RowsShown.of_viewport
    (hv : v.RowsShown)
    {u : Viewport}
    (hlines : u.lines = v.viewport.lines)
    (hwidth : v.wrapping = true → u.width = v.viewport.width) :
    RowsShown { v with viewport := u } := by
  unfold RowsShown
  rw [hlines, hv]
  exact (texts_congr (v := v) (w := { v with viewport := u }) rfl rfl rfl hwidth).symm

theorem RowsShown.setSize
    (hv : v.RowsShown)
    (width height : Nat) :
    (v.setSize width height).RowsShown := by
  unfold LogView.setSize
  dsimp only
  split
  · exact rowsShown_relayout _
  · rename_i hkept
    refine hv.of_viewport rfl fun hwrapping => ?_
    by_contra hwidth
    apply hkept
    rw [Bool.and_eq_true, bne_iff_ne]
    exact ⟨hwrapping, hwidth⟩

theorem RowsShown.scroll
    (hv : v.RowsShown)
    (k : Key) :
    (v.scroll k).RowsShown := by
  have hmoved (u : Viewport) (hu : v.viewport.scrollKey? k = some u) :
      u.lines = v.viewport.lines ∧ u.width = v.viewport.width := by
    cases Viewport.scroll_of_scrollKey? hu <;> exact ⟨rfl, rfl⟩
  unfold LogView.scroll
  split
  · exact hv
  · rename_i u hu
    obtain ⟨hlines, hwidth⟩ := hmoved u hu
    have hshown := hv.of_viewport hlines fun _ => hwidth
    split <;> exact hshown

/-- The rows shown stay those of the lines. -/
theorem Change.rowsShown
    {input : LogInput}
    (hchange : v.Change input w)
    (hv : v.RowsShown) :
    w.RowsShown := by
  cases hchange with
  | stays | types text =>
      exact hv
  | searches search counts =>
      exact rowsShown_relayout _
  | wraps =>
      exact rowsShown_relayout _
  | reads previous window =>
      exact rowsShown_withLines _ _
  | toggles =>
      unfold toggleFollow
      dsimp only
      split <;> exact hv
  | scrolls k input_eq outside =>
      exact hv.scroll k
  | ticks input_eq following =>
      unfold ticked advance
      split
      · exact (rowsShown_withLines _ _).of_viewport rfl fun _ => rfl
      · exact hv
  | fits width height input_eq =>
      exact hv.setSize width height

/-! ## What a search found -/

/-- The search tells how many of the lines hold its text. -/
def Counted (v : LogView) : Prop :=
  v.search.Counts v.raw

theorem counted_withLines (v : LogView) (lines : List String) :
    (v.withLines lines).Counted := by
  obtain ⟨search, hcounts, -, hlines⟩ := v.withLines_eq lines
  rw [hlines]
  exact hcounts

theorem Change.counted
    {input : LogInput}
    (hchange : v.Change input w)
    (hv : v.Counted) :
    w.Counted := by
  cases hchange with
  | stays =>
      exact hv
  | types text =>
      trivial
  | searches search counts =>
      exact counts
  | wraps =>
      exact hv
  | reads previous window =>
      exact counted_withLines _ _
  | toggles =>
      exact (congrArg Counted v.content_toggleFollow).mpr hv
  | scrolls k input_eq outside =>
      exact (congrArg Counted (v.content_scroll k)).mpr hv
  | ticks input_eq following =>
      unfold ticked advance
      split
      · exact counted_withLines _ _
      · exact hv
  | fits width height input_eq =>
      exact (congrArg Counted (v.content_setSize width height)).mpr hv

/-! ## All runs -/

/-- The rows that show the lines of a log: one row that says so when there are no lines;
else the lines in their order, each whole or, when the log wraps, broken at its width. -/
def ShowsLines (v : LogView) (rows : List String) : Prop :=
  if v.raw = [] then rows = [s!"No logs in the last {v.window.label}."]
  else if v.wrapping then
    ∃ broken, List.Forall₂ (Broken v.viewport.width) v.raw broken ∧ rows = broken.flatten
  else rows = v.raw

theorem rows_eq_nil_iff (v : LogView) : v.rows = [] ↔ v.raw = [] := by
  unfold rows
  split
  · rw [List.flatMap_eq_nil_iff]
    constructor
    · intro hnone
      rw [List.eq_nil_iff_forall_not_mem]
      intro line hline
      obtain ⟨full, last, hpieces, -⟩ := exists_pieces_eq v.viewport.width line.toList
      have hwrapped := hnone line hline
      simp [wrapped, hpieces] at hwrapped
    · intro hnone line hline
      simp [hnone] at hline
  · rfl

/-- A log with lines has rows of its own. -/
theorem rows_not_empty
    (hraw : v.raw ≠ []) :
    ¬ v.rows.isEmpty = true := by
  rw [List.isEmpty_iff, rows_eq_nil_iff]
  exact hraw

theorem showsLines_texts (v : LogView) : v.ShowsLines v.texts := by
  by_cases hnone : v.raw = []
  · have hrows := v.rows_eq_nil_iff.mpr hnone
    simp [ShowsLines, texts, hnone, hrows]
  · rw [ShowsLines, texts, if_neg hnone, if_neg (rows_not_empty hnone)]
    split
    · rename_i hwrapping
      refine ⟨v.raw.map fun line => wrapped line v.viewport.width, ?_, ?_⟩
      · rw [List.forall₂_map_right_iff, List.forall₂_same]
        exact fun line _ => broken_wrapped line _
      · rw [rows, if_pos hwrapping, List.flatMap_def]
    · rename_i hwhole
      rw [rows, if_neg hwhole]

end LogView

open LogView in
/-- After any events and sizes, a search that was made tells how many of the lines that
the log now holds are found to hold its text, and this number is reported.  The text of
the rows is that of these lines in their order, each whole or broken at the width that
the log now has, or the one row that says that there are none. -/
theorem log_rows_current
    (kind : Kind) (item : Item) (container : Option String) (inputs : List LogInput) :
    let v := (LogView.ofItem kind item container).run inputs
    (∀ needle found, v.search = .applied needle found →
      found = (v.raw.filter fun line => (matchPositions? line needle).isSome).length ∧
      v.status = .note s!"{v.summary} · \"{needle}\": {found} matches") ∧
    v.ShowsLines (v.viewport.lines.map Line.text) := by
  intro v
  have hcounted : v.Counted :=
    run_keeps (P := Counted) (fun _ _ _ hv hchange => hchange.counted hv) (counted_withLines _ _)
      inputs
  have hopened : (LogView.ofItem kind item container).RowsShown :=
    (rowsShown_withLines _ _).of_viewport rfl fun _ => rfl
  have hshown : v.RowsShown :=
    run_keeps (P := RowsShown) (fun _ _ _ hv hchange => hchange.rowsShown hv) hopened inputs
  constructor
  · intro needle found hsearch
    rw [Counted, hsearch] at hcounted
    refine ⟨?_, ?_⟩
    · rw [hcounted, countFound, List.countP_eq_length_filter]
    · rw [status, hsearch]
  · rw [hshown]
    exact v.showsLines_texts

end ClusterNav
