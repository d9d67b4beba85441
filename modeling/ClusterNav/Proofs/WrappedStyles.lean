import ClusterNav.Proofs.LogRows
import ClusterNav.Proofs.Occurrences
import Mathlib.Data.List.Infix
import Mathlib.Data.List.Sort

/-!
# The styles of a wrapped log

A log that does not wrap styles each of its lines as a whole: in the colour of the level
that the line names, with what the search finds in it marked.  A log that wraps breaks a
line first, and styles each of its rows as if the row were a line.  So the rows have the
characters of their line, but not always its styles.

**Results.**
* `LogView.hits_cases`, `LogView.hits_ne_nil_of_infix`: what is found in a line, and in a
  part of it.
* `LogView.foundAt_markedCells`: what is found is what is marked.
* `LogView.cells_rows_iff`: when rows look like the line they make up.
* `wrapped_styles_iff`: when wrapping changes only where a line is broken.
* `wrapped_line_restyled`: lines that change otherwise.
-/

namespace ClusterNav

/-! ## The search in a line and in its parts -/

namespace LogView

open Select

variable {needle : Option String} {line row : String} {rows : List String}

theorem hits_ne_nil_iff (needle : Option String) (line : String) :
    hits needle line ≠ [] ↔
      ∃ text, needle = some text ∧ text ≠ "" ∧
        ∃ place, Aligned text.toList line.toList place := by
  cases needle with
  | none =>
      simp [hits]
  | some text =>
      rw [hits, Option.bind_some]
      simp only [Option.some.injEq, exists_eq_left', ← isSome_matchPositions?]
      cases hpositions : matchPositions? line text with
      | none =>
          simp
      | some positions =>
          obtain ⟨place, -, rfl⟩ := (matchPositions?_eq_some_iff _ _ _).mp hpositions
          simp

/-- What is found in a part of a line is found in the line, perhaps elsewhere. -/
theorem hits_ne_nil_of_infix
    (hpart : row.toList <:+: line.toList)
    (hfound : hits needle row ≠ []) :
    hits needle line ≠ [] := by
  obtain ⟨text, hneedle, htext, place, hplace⟩ := (hits_ne_nil_iff needle row).mp hfound
  obtain ⟨before, after, hline⟩ := hpart
  refine (hits_ne_nil_iff needle line).mpr ⟨text, hneedle, htext, before.length + place, ?_⟩
  rw [← hline]
  exact hplace.of_part before after

/-- The number of characters that a search looks for. -/
def soughtLength (needle : Option String) : Nat :=
  (needle.getD "").length

/-- A search finds nothing in a line, or as many neighbouring characters as it looks
for. -/
theorem hits_cases (needle : Option String) (line : String) :
    hits needle line = [] ∨
      0 < soughtLength needle ∧
        ∃ start, start + soughtLength needle ≤ line.length ∧
          hits needle line = List.range' start (soughtLength needle) := by
  by_cases hfound : hits needle line = []
  · exact .inl hfound
  · obtain ⟨text, rfl, htext, hplaces⟩ := (hits_ne_nil_iff needle line).mp hfound
    obtain ⟨positions, hpositions⟩ :=
      Option.isSome_iff_exists.mp ((isSome_matchPositions? line text).mpr hplaces)
    obtain ⟨start, hstart, rfl⟩ := (matchPositions?_eq_some_iff _ _ _).mp hpositions
    have hfits := hstart.aligned.fits
    refine .inr ⟨?_, start, ?_, ?_⟩
    · simpa [soughtLength, Nat.pos_iff_ne_zero] using htext
    · rwa [String.length_toList, String.length_toList] at hfits
    · simp [hits, hpositions, soughtLength]

/-! ## Marked characters -/

/-- The positions of the characters that are shown as found, in a row that begins at an
offset. -/
def foundAt (offset : Nat) (row : List (Char × Style)) : List Nat :=
  row.findIdxs (fun cell => cell.2.reversed) offset

/-- A character of a line of a level has the style of the level, or that of what is found
in such a line. -/
def Styled (level : Style) (cell : Char × Style) : Prop :=
  cell.2 = if cell.2.reversed then foundStyle level else level

theorem levelStyle_cases (line : String) :
    levelStyle line = .colored .failure ∨ levelStyle line = .colored .warning ∨
      levelStyle line = .plain := by
  unfold levelStyle
  split
  · exact .inl rfl
  · split
    · exact .inr (.inl rfl)
    · exact .inr (.inr rfl)

theorem reversed_levelStyle (line : String) : (levelStyle line).reversed = false := by
  rcases levelStyle_cases line with h | h | h <;> rw [h] <;> rfl

/-- What is found looks the same in lines of all levels. -/
theorem foundStyle_levelStyle (line other : String) :
    foundStyle (levelStyle line) = foundStyle (levelStyle other) := by
  have hstyle (line : String) : foundStyle (levelStyle line) = foundStyle .plain := by
    rcases levelStyle_cases line with h | h | h <;> rw [h] <;> rfl
  rw [hstyle line, hstyle other]

theorem styled_markedCells
    {level : Style}
    (hlevel : level.reversed = false)
    (positions : List Nat) (line : String) :
    ∀ cell ∈ markedCells level positions line, Styled level cell := by
  intro cell hcell
  obtain ⟨⟨c, position⟩, -, rfl⟩ := List.mem_map.mp hcell
  unfold Styled
  dsimp only
  split
  · rfl
  · simp [hlevel]

theorem length_markedCells (level : Style) (positions : List Nat) (line : String) :
    (markedCells level positions line).length = line.length := by
  simp [markedCells, String.length_toList]

theorem reversed_getElem_markedCells
    {level : Style}
    (hlevel : level.reversed = false)
    {positions : List Nat} {i : Nat}
    (hi : i < (markedCells level positions line).length) :
    (markedCells level positions line)[i].2.reversed = true ↔ i ∈ positions := by
  by_cases hmem : i ∈ positions <;>
    simp [markedCells, hmem, foundStyle, Style.reverse, hlevel]

/-- Exactly what the search finds is shown as found. -/
theorem foundAt_markedCells
    {level : Style}
    (hlevel : level.reversed = false)
    (needle : Option String) (line : String) (offset : Nat) :
    foundAt offset (markedCells level (hits needle line) line) =
      (hits needle line).map (offset + ·) := by
  rcases hits_cases needle line with hnone | ⟨-, start, hfits, hfound⟩
  · rw [hnone, List.map_nil, foundAt, List.findIdxs_eq_nil_iff]
    intro cell hcell
    rw [markedCells_nil] at hcell
    obtain ⟨c, -, rfl⟩ := List.mem_map.mp hcell
    exact hlevel
  · -- Both lists are in increasing order, so that their members decide.
    rw [hfound, List.map_add_range']
    refine List.Pairwise.eq_of_mem_iff (r := (· < ·)) List.pairwise_findIdxs
      List.pairwise_lt_range' fun i => ?_
    rw [foundAt, List.mem_findIdxs_iff_getElem_sub_pos, List.mem_range'_1]
    constructor
    · rintro ⟨hfrom, hto, hi⟩
      have hmem := (reversed_getElem_markedCells hlevel hto).mp hi
      rw [List.mem_range'_1] at hmem
      omega
    · rintro ⟨hfrom, hto⟩
      have hi : i - offset <
          (markedCells level (List.range' start (soughtLength needle)) line).length := by
        rw [length_markedCells]
        omega
      refine ⟨by omega, hi, (reversed_getElem_markedCells hlevel hi).mpr ?_⟩
      rw [List.mem_range'_1]
      omega

/-- Two rows of one level with the same characters are the same when the same of these
are shown as found. -/
theorem eq_of_foundAt
    {level : Style} {offset : Nat} {one other : List (Char × Style)}
    (hchars : one.map Prod.fst = other.map Prod.fst)
    (hone : ∀ cell ∈ one, Styled level cell)
    (hother : ∀ cell ∈ other, Styled level cell)
    (hfound : foundAt offset one = foundAt offset other) :
    one = other := by
  induction one generalizing offset other with
  | nil =>
      exact (List.map_eq_nil_iff.mp hchars.symm).symm
  | cons cell one ih =>
      cases other with
      | nil =>
          contradiction
      | cons cell' other =>
          rw [List.map_cons, List.map_cons, List.cons.injEq] at hchars
          rw [List.forall_mem_cons] at hone hother
          -- No position of a later character is that of this one.
          have hlater (row : List (Char × Style)) : offset ∉ foundAt (offset + 1) row := by
            intro hmem
            have hle := List.ge_of_mem_findIdxs _ hmem
            omega
          have hsame :
              cell.2.reversed = cell'.2.reversed ∧
                foundAt (offset + 1) one = foundAt (offset + 1) other := by
            unfold foundAt at hfound hlater ⊢
            rw [List.findIdxs_cons, List.findIdxs_cons] at hfound
            cases hcell : cell.2.reversed <;> cases hcell' : cell'.2.reversed <;>
              simp only [hcell, hcell', Bool.false_eq_true, if_false, if_true] at hfound
            · exact ⟨rfl, hfound⟩
            · exact absurd (hfound ▸ List.mem_cons_self) (hlater one)
            · exact absurd (hfound ▸ List.mem_cons_self) (hlater other)
            · exact ⟨rfl, (List.cons.inj hfound).2⟩
          have hstyle : cell.2 = cell'.2 := by
            rw [hone.1, hother.1, hsame.1]
          rw [Prod.ext hchars.1 hstyle, ih hchars.2 hone.2 hother.2 hsame.2]

/-! ## Rows of a line -/

/-- The positions of what a search finds in the rows of a line, which begin at an
offset. -/
def rowHits (needle : Option String) : Nat → List String → List Nat
  | _, [] => []
  | offset, row :: rows =>
      (hits needle row).map (offset + ·) ++ rowHits needle (offset + row.length) rows

theorem foundAt_rows (needle : Option String) (offset : Nat) (rows : List String) :
    foundAt offset (rows.flatMap fun row => (logLine needle row).cells) =
      rowHits needle offset rows := by
  induction rows generalizing offset with
  | nil =>
      rfl
  | cons row rows ih =>
      rw [List.flatMap_cons, foundAt, List.findIdxs_append, cells_logLine, length_markedCells]
      exact congrArg₂ _ (foundAt_markedCells (reversed_levelStyle row) needle row offset) (ih _)

theorem rowHits_append (needle : Option String) (offset : Nat) (rows rest : List String) :
    rowHits needle offset (rows ++ rest) =
      rowHits needle offset rows ++
        rowHits needle (offset + (String.join rows).length) rest := by
  induction rows generalizing offset with
  | nil =>
      rfl
  | cons row rows ih =>
      rw [List.cons_append, rowHits, rowHits, ih, List.append_assoc, String.join_cons,
        String.length_append, Nat.add_assoc]

theorem rowHits_eq_nil_iff (needle : Option String) (offset : Nat) (rows : List String) :
    rowHits needle offset rows = [] ↔ ∀ row ∈ rows, hits needle row = [] := by
  induction rows generalizing offset with
  | nil =>
      simp [rowHits]
  | cons row rows ih =>
      rw [rowHits, List.append_eq_nil_iff, List.map_eq_nil_iff, ih, List.forall_mem_cons]

/-- What a search finds in a line is found in a single one of its rows, at the place that
it has in the line, and in the other rows nothing is found; or there is nothing to find. -/
def FoundInOneRow (needle : Option String) (line : String) (rows : List String) : Prop :=
  hits needle line = [] ∨
    ∃ before row after,
      rows = before ++ row :: after ∧
      hits needle row ≠ [] ∧
      hits needle line = (hits needle row).map ((String.join before).length + ·) ∧
      ∀ other ∈ before ++ after, hits needle other = []

/-- A row in which something is found, when no more is found than a search looks for. -/
theorem exists_row_of_rowHits
    {offset : Nat}
    (hrows : (rowHits needle offset rows).length = soughtLength needle)
    (hsought : 0 < soughtLength needle) :
    ∃ before row after,
      rows = before ++ row :: after ∧
      hits needle row ≠ [] ∧
      ∀ other ∈ before ++ after, hits needle other = [] := by
  induction rows generalizing offset with
  | nil =>
      exact absurd hrows hsought.ne
  | cons row rows ih =>
      rw [rowHits, List.length_append, List.length_map] at hrows
      rcases hits_cases needle row with hnone | ⟨-, start, -, hfound⟩
      · rw [hnone, List.length_nil, Nat.zero_add] at hrows
        obtain ⟨before, found, after, rfl, hfound, hothers⟩ := ih hrows
        refine ⟨row :: before, found, after, rfl, hfound, ?_⟩
        rw [List.cons_append, List.forall_mem_cons]
        exact ⟨hnone, hothers⟩
      · have hlength : (hits needle row).length = soughtLength needle := by
          rw [hfound, List.length_range']
        refine ⟨[], row, rows, rfl, ?_, ?_⟩
        · exact List.ne_nil_of_length_pos (hlength ▸ hsought)
        · apply (rowHits_eq_nil_iff needle (offset + row.length) rows).mp
          rw [← List.length_eq_zero_iff]
          omega

/-- Where nothing is found in the other rows, what is found is found in the one row. -/
theorem rowHits_of_others
    {before after : List String}
    (hothers : ∀ other ∈ before ++ after, hits needle other = []) :
    rowHits needle 0 (before ++ row :: after) =
      (hits needle row).map ((String.join before).length + ·) := by
  rw [List.forall_mem_append] at hothers
  rw [rowHits_append, rowHits, (rowHits_eq_nil_iff needle _ before).mpr hothers.1,
    (rowHits_eq_nil_iff needle _ after).mpr hothers.2, List.nil_append, List.append_nil,
    Nat.zero_add]

theorem foundInOneRow_iff
    (hjoin : String.join rows = line) :
    FoundInOneRow needle line rows ↔ rowHits needle 0 rows = hits needle line := by
  have hpart {row : String} (hrow : row ∈ rows) : row.toList <:+: line.toList := by
    obtain ⟨before, after, rfl⟩ := List.append_of_mem hrow
    refine ⟨(String.join before).toList, (String.join after).toList, ?_⟩
    rw [← hjoin]
    simp [String.toList_join]
  constructor
  · rintro (hnone | ⟨before, row, after, rfl, -, hline, hothers⟩)
    · rw [hnone, rowHits_eq_nil_iff]
      intro row hrow
      by_contra hfound
      exact hits_ne_nil_of_infix (hpart hrow) hfound hnone
    · rw [rowHits_of_others hothers, hline]
  · intro heq
    rcases hits_cases needle line with hnone | ⟨hsought, start, -, hfound⟩
    · exact .inl hnone
    · have hlength : (rowHits needle 0 rows).length = soughtLength needle := by
        rw [heq, hfound, List.length_range']
      obtain ⟨before, row, after, rfl, hrow, hothers⟩ := exists_row_of_rowHits hlength hsought
      exact .inr ⟨before, row, after, rfl, hrow, heq ▸ rowHits_of_others hothers, hothers⟩

/-! ## The level of a line and of its rows -/

/-- All of a line is found when all of its characters are shown so. -/
theorem hits_eq_range_iff (needle : Option String) (line : String) :
    hits needle line = List.range line.length ↔
      ∀ cell ∈ markedCells (levelStyle line) (hits needle line) line,
        cell.2.reversed = true := by
  constructor
  · intro hall cell hcell
    obtain ⟨i, hi, rfl⟩ := List.getElem_of_mem hcell
    apply (reversed_getElem_markedCells (reversed_levelStyle line) hi).mpr
    rw [length_markedCells] at hi
    rwa [hall, List.mem_range]
  · intro hall
    have hmem (i : Nat) (hi : i < line.length) : i ∈ hits needle line := by
      rw [← length_markedCells (levelStyle line) (hits needle line) line] at hi
      exact (reversed_getElem_markedCells (reversed_levelStyle line) hi).mp
        (hall _ (List.getElem_mem hi))
    rcases hits_cases needle line with hnone | ⟨hsought, start, hfits, hfound⟩
    · have hempty : line.length = 0 := by
        by_contra hpos
        have hzero := hmem 0 (Nat.pos_of_ne_zero hpos)
        simp [hnone] at hzero
      rw [hnone, hempty, List.range_zero]
    · have hfirst := hmem 0 (by omega)
      have hlast := hmem (line.length - 1) (by omega)
      rw [hfound, List.mem_range'_1] at hfirst hlast
      have hstart : start = 0 := by omega
      have hlength : soughtLength needle = line.length := by omega
      rw [hfound, hstart, hlength, List.range_eq_range']

/-- Each row names the level that the line names, or all of its characters are shown as
found. -/
def LevelsKept (needle : Option String) (line : String) (rows : List String) : Prop :=
  ∀ row ∈ rows,
    levelStyle row = levelStyle line ∨ hits needle row = List.range row.length

theorem styled_row_iff (needle : Option String) (line row : String) :
    (∀ cell ∈ (logLine needle row).cells, Styled (levelStyle line) cell) ↔
      levelStyle row = levelStyle line ∨ hits needle row = List.range row.length := by
  have hown : ∀ cell ∈ (logLine needle row).cells, Styled (levelStyle row) cell := by
    rw [cells_logLine]
    exact styled_markedCells (reversed_levelStyle row) _ _
  constructor
  · intro hline
    by_cases hlevel : levelStyle row = levelStyle line
    · exact .inl hlevel
    · have hall : ∀ cell ∈ (logLine needle row).cells, cell.2.reversed = true := by
        intro cell hcell
        by_contra hplain
        have hrow := hown cell hcell
        have hother := hline cell hcell
        rw [Styled, if_neg hplain] at hrow hother
        exact hlevel (hrow.symm.trans hother)
      refine .inr ((hits_eq_range_iff needle row).mpr ?_)
      rwa [cells_logLine] at hall
  · rintro (hlevel | hfound)
    · rwa [hlevel] at hown
    · intro cell hcell
      have hmarked : cell.2.reversed = true :=
        (hits_eq_range_iff needle row).mp hfound cell (cells_logLine needle row ▸ hcell)
      have hrow := hown cell hcell
      rw [Styled, if_pos hmarked, foundStyle_levelStyle row line] at hrow
      rwa [Styled, if_pos hmarked]

theorem map_fst_cells_rows
    (hjoin : String.join rows = line) :
    (rows.flatMap fun row => (logLine needle row).cells).map Prod.fst =
      (logLine needle line).cells.map Prod.fst := by
  rw [List.map_flatMap, cells_logLine, map_fst_markedCells, ← hjoin, String.toList_join]
  simp only [cells_logLine, map_fst_markedCells]

/-- Rows of a line look like the line when it is found in them what is found in the line,
and they name its level. -/
theorem cells_rows_iff
    (hjoin : String.join rows = line) :
    (rows.flatMap fun row => (logLine needle row).cells) = (logLine needle line).cells ↔
      FoundInOneRow needle line rows ∧ LevelsKept needle line rows := by
  have hstyled : ∀ cell ∈ (logLine needle line).cells, Styled (levelStyle line) cell := by
    rw [cells_logLine]
    exact styled_markedCells (reversed_levelStyle line) _ _
  have hfound : foundAt 0 (logLine needle line).cells = hits needle line := by
    rw [cells_logLine, foundAt_markedCells (reversed_levelStyle line)]
    simp
  have hkept :
      (∀ cell ∈ rows.flatMap fun row => (logLine needle row).cells,
        Styled (levelStyle line) cell) ↔ LevelsKept needle line rows := by
    simp only [List.mem_flatMap, LevelsKept, ← styled_row_iff]
    grind
  rw [foundInOneRow_iff hjoin, ← foundAt_rows, ← hkept]
  constructor
  · intro heq
    rw [heq]
    exact ⟨hfound, hstyled⟩
  · rintro ⟨hsame, hrows⟩
    exact eq_of_foundAt (map_fst_cells_rows hjoin) hrows hstyled (hsame.trans hfound.symm)

/-! ## Logs -/

/-- What a log shows of a line: the characters of its rows, with their styles. -/
def shown (v : LogView) (line : String) : List (Char × Style) :=
  { v with raw := [line] }.layout.flatMap Line.cells

theorem layout_eq
    {v : LogView}
    (hraw : v.raw ≠ []) :
    v.layout = v.rows.map (logLine v.search.needle?) := by
  rw [layout, if_neg (rows_not_empty hraw)]

theorem shown_wrapping
    {v : LogView}
    (hwrapping : v.wrapping = true)
    (line : String) :
    v.shown line =
      (wrapped line v.viewport.width).flatMap fun row =>
        (logLine v.search.needle? row).cells := by
  rw [shown, layout_eq (List.cons_ne_nil _ _), List.flatMap_map, rows, if_pos hwrapping,
    List.flatMap_singleton]

theorem shown_whole
    {v : LogView}
    (hwrapping : v.wrapping = false)
    (line : String) :
    v.shown line = (logLine v.search.needle? line).cells := by
  rw [shown, layout_eq (List.cons_ne_nil _ _), List.flatMap_map, rows,
    if_neg (Bool.not_eq_true _ ▸ hwrapping), List.flatMap_singleton]

/-- A log shows its lines one after another, each as if it were the only one. -/
theorem cells_layout
    {v : LogView}
    (hraw : v.raw ≠ []) :
    v.layout.flatMap Line.cells = v.raw.flatMap v.shown := by
  rw [layout_eq hraw, List.flatMap_map, rows]
  split
  · rename_i hwrapping
    rw [List.flatMap_assoc, funext (shown_wrapping hwrapping)]
  · rename_i hwhole
    rw [funext (shown_whole (Bool.eq_false_of_not_eq_true hwhole))]

end LogView

open LogView in
/-- A log, with any search and of any width, shows its lines one after another.  Of a line
it shows the same characters whether it wraps or not.  Their styles are the same exactly
when what the search finds in the line stands in one of the rows, so that it is found there
and in no other row, and when all rows name the level of the line, or have only characters
that are found. -/
theorem wrapped_styles_iff (v : LogView) :
    (v.raw ≠ [] → v.layout.flatMap Line.cells = v.raw.flatMap v.shown) ∧
    ∀ line : String,
      let broken := { v with wrapping := true }.shown line
      let whole := { v with wrapping := false }.shown line
      let rows := wrapped line v.viewport.width
      broken.map Prod.fst = whole.map Prod.fst ∧
      (broken = whole ↔
        FoundInOneRow v.search.needle? line rows ∧ LevelsKept v.search.needle? line rows) := by
  refine ⟨cells_layout, ?_⟩
  intro line broken whole rows
  have hjoin : String.join rows = line := join_wrapped line _
  have hbroken : broken = rows.flatMap fun row => (logLine v.search.needle? row).cells :=
    shown_wrapping rfl line
  have hwhole : whole = (logLine v.search.needle? line).cells := shown_whole rfl line
  rw [hbroken, hwhole]
  exact ⟨map_fst_cells_rows hjoin, cells_rows_iff hjoin⟩

open LogView in
/-- A row does not have the colour of the level of its line when it does not name the level;
and what stands on both sides of a break is not marked. -/
theorem wrapped_line_restyled :
    (¬ ∀ (kind : Kind) (item : Item) (container : Option String) (inputs : List LogInput),
      let v := (LogView.ofItem kind item container).run inputs
      v.search = .off → ∀ line ∈ v.raw,
        { v with wrapping := true }.shown line = { v with wrapping := false }.shown line) ∧
    (¬ ∀ (kind : Kind) (item : Item) (container : Option String) (inputs : List LogInput),
      let v := (LogView.ofItem kind item container).run inputs
      ∀ line ∈ v.raw, levelStyle line = .plain →
        { v with wrapping := true }.shown line = { v with wrapping := false }.shown line) := by
  let item : Item := (Kind.statefulSet.items .all).headD default
  constructor
  · intro hsame
    have h := hsame .statefulSet item none [.fit 40 20] (by decide +kernel)
      "2024-05-14T07:15:00Z WARN  [redis] 1 changes in 60 seconds. Saving..." (by decide +kernel)
    revert h
    decide +kernel
  · intro hsame
    let keys := ["/", "c", "h", "a", "n", "g", "e", "s", "enter"]
    have h := hsame .statefulSet item none
      (.fit 40 20 :: keys.map fun name => .event (.key ⟨name⟩))
      "2024-05-14T09:03:00Z INFO  [redis] 1 changes in 60 seconds. Saving..." (by decide +kernel)
      (by decide +kernel)
    revert h
    decide +kernel

end ClusterNav
