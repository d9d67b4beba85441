import ClusterNav.Layout.Box

/-!
# Framed boxes

What a box holds, where its lines stand on the screen, and how wide its rows are.  The
texts in a box are cut by their characters and padded by their columns.  The two agree
where every character takes one column; where they do not, the right border of a row is
out of line with the others.

**Results.**
* `Box.framed_eq`: the rows of a box below the gap that centres it, and
  `Box.getElem?_framed`: the line between the borders of a row.
* `Box.text_innerLine`: the text of such a row.
* `Box.framed?_eq`: drawing a box never subtracts more than there is.
* `box_borders_straight_iff`: for which title and lines the right border is straight.
* `box_border_bent`: a title that bends it.
-/

namespace ClusterNav

/-! ## Columns of characters -/

namespace Text

theorem width_repeated {c : Char} (h : IsNarrow c) (n : Nat) : width (repeated c n) = n := by
  have hall : ∀ d ∈ List.replicate n c, IsNarrow d := by
    intro d hd
    exact List.eq_of_mem_replicate hd ▸ h
  rw [width, toList_repeated, listWidth_of_narrow hall, List.length_replicate]

/-- The borders of a box, its padding and the ellipsis. -/
theorem isNarrow_drawn : ∀ c ∈ ['┌', '┐', '│', '└', '┘', '─', ' ', '…'], IsNarrow c := by
  simp only [List.forall_mem_cons, List.not_mem_nil, false_implies, implies_true, and_true]
  decide +kernel

/-- Cutting a text brings nothing but an ellipsis into it. -/
theorem mem_compactChars {cs : List Char} {limit : Nat} {c : Char}
    (h : c ∈ compactChars cs limit) : c ∈ cs ∨ c = '…' := by
  unfold compactChars at h
  split at h
  case isTrue => exact Or.inl h
  case isFalse =>
    cases limit with
    | zero => simp at h
    | succ n =>
        rcases List.mem_append.mp h with htake | hdots
        · exact Or.inl (List.mem_of_mem_take htake)
        · exact Or.inr (List.mem_singleton.mp hdots)

theorem narrow_compactChars {cs : List Char} (h : ∀ c ∈ cs, IsNarrow c) (limit : Nat) :
    ∀ c ∈ compactChars cs limit, IsNarrow c := by
  intro c hc
  rcases mem_compactChars hc with hmem | rfl
  · exact h c hmem
  · exact isNarrow_drawn _ (by simp)

theorem length_compact_le (s : String) (limit : Nat) : (compact s limit).length ≤ limit := by
  rw [← String.length_toList, toList_compact, length_compactChars]
  exact Nat.min_le_right _ _

theorem compact_of_length_le {s : String} {limit : Nat} (h : s.length ≤ limit) :
    compact s limit = s := by
  have hkept : compactChars s.toList limit = s.toList := 
    if_pos (String.length_toList ▸ h)
  rw [compact, hkept, String.ofList_toList]

end Text

namespace Line

theorem width_append (front back : List Span) :
    width { spans := front ++ back } =
      width { spans := front } + width { spans := back } := by
  induction front with
  | nil => simp [width]
  | cons span rest ih =>
      simp only [width, List.cons_append, List.foldr_cons] at ih ⊢
      omega

theorem width_cons (span : Span) (spans : List Span) :
    width { spans := span :: spans } = span.width + width { spans := spans } := rfl

theorem text_append (front back : List Span) :
    text { spans := front ++ back } = text { spans := front } ++ text { spans := back } := by
  simp [text]

theorem text_cons (span : Span) (spans : List Span) :
    text { spans := span :: spans } = span.text ++ text { spans := spans } := by
  simp [text]

@[simp]
theorem text_nil : text { spans := [] } = "" := rfl

/-- Does a line hold text on the background of the cursor? -/
def HasCursorText (line : Line) : Prop :=
  ∃ span ∈ line.spans, span.style.bg = some .selected

/-- Does a line hold text in bold? -/
def HasBoldText (line : Line) : Prop :=
  ∃ span ∈ line.spans, span.style.bold = true

end Line

/-! ## The parts of a box -/

namespace Box

variable (title : String) (lines : List Line) (boxWidth width height : Nat)

/-- The columns of a box, borders included. -/
def outer : Nat :=
  min (max boxWidth leastWidth) (max width leastWidth)

/-- The columns between the borders. -/
def inner : Nat :=
  outer boxWidth width - 2

/-- The columns left of a box. -/
def margin : Nat :=
  (max width leastWidth - outer boxWidth width) / 2

/-- The title as it stands in the upper border. -/
def shownTitle : String :=
  Text.compact (" " ++ title ++ " ") (inner boxWidth width)

theorem six_le_inner : 6 ≤ inner boxWidth width := by
  unfold inner outer leastWidth
  omega

/-- The rows of a box from its upper to its lower border. -/
def rows : List Line :=
  let left := Text.spaces (margin boxWidth width)
  topBorder left title (inner boxWidth width) ::
    lines.map (innerLine left (inner boxWidth width)) ++
      [bottomBorder left (inner boxWidth width)]

/-- The blank lines above a box with so many lines. -/
def gap (count : Nat) : Nat :=
  (height - (count + 2)) / 2

theorem framed_eq :
    framed title lines boxWidth width height =
      List.replicate (gap height lines.length) Line.blank ++ rows title lines boxWidth width := by
  simp [framed, rows, gap, outer, inner, margin]

theorem length_rows : (rows title lines boxWidth width).length = lines.length + 2 := by
  simp [rows]

theorem length_framed :
    (framed title lines boxWidth width height).length =
      gap height lines.length + (lines.length + 2) := by
  rw [framed_eq, List.length_append, List.length_replicate, length_rows]

/-- Every line in a box is drawn between its borders. -/
theorem getElem?_framed (i : Nat) (hi : i < lines.length) :
    (framed title lines boxWidth width height)[gap height lines.length + 1 + i]? =
      lines[i]?.map (innerLine (Text.spaces (margin boxWidth width)) (inner boxWidth width)) := by
  have hgap : (List.replicate (gap height lines.length) Line.blank).length ≤
      gap height lines.length + 1 + i := by
    rw [List.length_replicate]
    omega
  have hindex : gap height lines.length + 1 + i - gap height lines.length = i + 1 := by omega
  rw [framed_eq, List.getElem?_append_right hgap, List.length_replicate, hindex, rows,
    List.cons_append, List.getElem?_cons_succ,
    List.getElem?_append_left (by simpa using hi), List.getElem?_map]

/-! ## What is shown of a line -/

/-- Without room, nothing is shown. -/
theorem clip_zero (spans : List Span) : clip 0 spans = [] := by
  cases spans <;> rfl

theorem clip_cons_of_pos
    {room : Nat}
    (h : 0 < room) (span : Span) (rest : List Span) :
    clip room (span :: rest) =
      ⟨Text.compact span.text room, span.style.withBg .panel⟩ ::
        clip (room - (Text.compact span.text room).length) rest :=
  if_neg (Nat.ne_of_gt h)

/-- The text that a row shows of a line. -/
def shownText (room : Nat) (line : Line) : String :=
  Line.text { spans := clip room line.spans }

theorem text_innerLine (left : String) (room : Nat) (line : Line) :
    (innerLine left room line).text =
      left ++ "│" ++ shownText room line ++ Text.spaces (room - min line.width room) ++ "│" := by
  rw [innerLine, Line.text_append, Line.text_append]
  simp only [Line.text_cons, Line.text_nil, Span.raw, shownText, String.append_empty,
    String.append_assoc]

/-- A span that there is room for is shown whole. -/
theorem shownText_cons
    {room : Nat} {span : Span}
    (h : span.text.length ≤ room) (rest : List Span) :
    shownText room { spans := span :: rest } =
      span.text ++ shownText (room - span.text.length) { spans := rest } := by
  unfold shownText
  rcases Nat.eq_zero_or_pos room with rfl | hpos
  · -- what there is room for then is a span without text
    have hempty : span.text = "" := String.length_eq_zero_iff.mp (by omega)
    rw [Nat.zero_sub, clip_zero, clip_zero, hempty]
    rfl
  · rw [clip_cons_of_pos hpos, Text.compact_of_length_le h]
    exact Line.text_cons _ _

/-- The last span is cut to the room that is left. -/
theorem shownText_singleton (room : Nat) (span : Span) :
    shownText room { spans := [span] } = Text.compact span.text room := by
  unfold shownText
  rcases Nat.eq_zero_or_pos room with rfl | hpos
  · rw [clip_zero, Text.compact]
    cases span.text.toList <;> rfl
  · rw [clip_cons_of_pos hpos, Line.text_cons, clip, Line.text_nil, String.append_empty]

theorem exists_style_of_mem_clip
    {room : Nat} {spans : List Span} {shown : Span}
    (h : shown ∈ clip room spans) :
    ∃ span ∈ spans, shown.style = span.style.withBg .panel := by
  induction spans generalizing room with
  | nil => simp [clip] at h
  | cons span rest ih =>
      unfold clip at h
      split at h
      · simp at h
      · rcases List.mem_cons.mp h with rfl | hrest
        · exact ⟨span, List.mem_cons_self, rfl⟩
        · obtain ⟨other, hmem, hstyle⟩ := ih hrest
          exact ⟨other, List.mem_cons_of_mem _ hmem, hstyle⟩

/-- In a row, what is in bold is of the line it shows. -/
theorem hasBoldText_innerLine_iff (left : String) (room : Nat) (line : Line) :
    (innerLine left room line).HasBoldText ↔ Line.HasBoldText { spans := clip room line.spans } := by
  simp [Line.HasBoldText, innerLine, or_and_right, exists_or, Span.raw, Style.plain,
    Style.colored, Style.withBg]

theorem not_hasBoldText_innerLine
    {line : Line}
    (h : ¬ line.HasBoldText) (left : String) (room : Nat) :
    ¬ (innerLine left room line).HasBoldText := by
  rw [hasBoldText_innerLine_iff]
  rintro ⟨shown, hshown, hbold⟩
  obtain ⟨span, hspan, hstyle⟩ := exists_style_of_mem_clip hshown
  rw [hstyle] at hbold
  exact h ⟨span, hspan, hbold⟩

/-! ## Subtraction -/

/-- A difference, when there is enough to subtract from. -/
def less? (m n : Nat) : Option Nat :=
  if n ≤ m then some (m - n) else none

theorem less?_of_le {m n : Nat} (h : n ≤ m) : less? m n = some (m - n) := if_pos h

/-- `clip` by differences that exist. -/
def clip? (budget : Nat) : List Span → Option (List Span)
  | [] => some []
  | span :: rest =>
    if budget = 0 then some []
    else do
      let content := Text.compact span.text budget
      let left ← less? budget content.length
      let clipped ← clip? left rest
      return ⟨content, span.style.withBg .panel⟩ :: clipped

def topBorder? (left title : String) (inner : Nat) : Option Line := do
  let shown := Text.compact (" " ++ title ++ " ") inner
  let dashes ← less? inner shown.length
  return {
    spans :=
      [.raw left,
       ⟨"┌", .colored .accent⟩,
       ⟨shown, (Style.colored .white).emphasized⟩,
       ⟨Text.repeated '─' dashes, .colored .accent⟩,
       ⟨"┐", .colored .accent⟩] }

def innerLine? (left : String) (inner : Nat) (line : Line) : Option Line := do
  let clipped ← clip? inner line.spans
  let padding ← less? inner (min line.width inner)
  return {
    spans :=
      [.raw left, ⟨"│", .colored .accent⟩]
      ++ clipped
      ++ [⟨Text.spaces padding, Style.plain.withBg .panel⟩, ⟨"│", .colored .accent⟩] }

/-- `framed` by bounds that are in order and differences that exist. -/
def framed? : Option (List Line) := do
  let width := max width leastWidth
  let _ ← less? width leastWidth
  let boxWidth := min (max boxWidth leastWidth) width
  let inner ← less? boxWidth 2
  let around ← less? width boxWidth
  let left := Text.spaces (around / 2)
  let top ← topBorder? left title inner
  let inside ← lines.mapM (innerLine? left inner)
  let box := [top] ++ inside ++ [bottomBorder left inner]
  return List.replicate ((height - box.length) / 2) Line.blank ++ box

variable {title lines boxWidth width height}

theorem clip?_eq (budget : Nat) (spans : List Span) :
    clip? budget spans = some (clip budget spans) := by
  induction spans generalizing budget with
  | nil => rfl
  | cons span rest ih =>
      unfold clip? clip
      by_cases hbudget : budget = 0
      · rw [if_pos hbudget, if_pos hbudget]
      · rw [if_neg hbudget, if_neg hbudget]
        simp [less?_of_le (Text.length_compact_le span.text budget), ih]

theorem topBorder?_eq (left title : String) (inner : Nat) :
    topBorder? left title inner = some (topBorder left title inner) := by
  simp [topBorder?, topBorder, less?_of_le (Text.length_compact_le _ inner)]

theorem innerLine?_eq (left : String) (inner : Nat) (line : Line) :
    innerLine? left inner line = some (innerLine left inner line) := by
  simp [innerLine?, innerLine, clip?_eq, less?_of_le (Nat.min_le_right line.width inner)]

/-- The bounds of a box are in order, and no difference is taken that there is not. -/
theorem framed?_eq :
    framed? title lines boxWidth width height =
      some (framed title lines boxWidth width height) := by
  have hleast : leastWidth ≤ max width leastWidth := Nat.le_max_right _ _
  have houter : min (max boxWidth leastWidth) (max width leastWidth) ≤ max width leastWidth :=
    Nat.min_le_right _ _
  have hborders : 2 ≤ min (max boxWidth leastWidth) (max width leastWidth) := by
    unfold leastWidth
    omega
  have hinside : ∀ left inner, lines.mapM (innerLine? left inner) =
      some (lines.map (innerLine left inner)) := by
    intro left inner
    have hfun : innerLine? left inner = fun line => pure (innerLine left inner line) :=
      funext (innerLine?_eq left inner)
    rw [hfun, List.mapM_pure]
    rfl
  simp [framed?, framed, less?_of_le hleast, less?_of_le houter, less?_of_le hborders,
    topBorder?_eq, hinside]

/-! ## Widths -/

/-- The columns of the spans that a row shows of a line. -/
def shownWidth (inner : Nat) (line : Line) : Nat :=
  Line.width { spans := clip inner line.spans }

theorem two_add_inner (boxWidth width : Nat) : 2 + inner boxWidth width = outer boxWidth width := by
  unfold inner outer leastWidth
  omega

theorem width_raw_spaces (n : Nat) : (Span.raw (Text.spaces n)).width = n :=
  Text.width_repeated (Text.isNarrow_drawn ' ' (by simp)) n

theorem width_border (c : Char) (hc : c ∈ ['┌', '┐', '│', '└', '┘', '─', ' ', '…']) :
    Text.width (String.ofList [c]) = 1 :=
  Text.width_repeated (Text.isNarrow_drawn c hc) 1

theorem width_topBorder (left inner : Nat) (title : String) :
    (topBorder (Text.spaces left) title inner).width +
        (Text.compact (" " ++ title ++ " ") inner).length =
      left + 2 + inner + Text.width (Text.compact (" " ++ title ++ " ") inner) := by
  have hshown := Text.length_compact_le (" " ++ title ++ " ") inner
  have hleft := width_raw_spaces left
  have hopen : Text.width "┌" = 1 := width_border '┌' (by simp)
  have hclose : Text.width "┐" = 1 := width_border '┐' (by simp)
  have hdashes : ∀ n, Text.width (Text.repeated '─' n) = n :=
    Text.width_repeated (Text.isNarrow_drawn '─' (by simp))
  simp only [topBorder, Line.width_cons, Span.width, Span.raw, hopen, hclose, hdashes] at hleft ⊢
  simp only [Line.width, List.foldr_nil]
  omega

theorem width_innerLine (left inner : Nat) (line : Line) :
    (innerLine (Text.spaces left) inner line).width + min line.width inner =
      left + 2 + inner + shownWidth inner line := by
  have hleft := width_raw_spaces left
  have hside : Text.width "│" = 1 := width_border '│' (by simp)
  have hpad : ∀ n, Text.width (Text.spaces n) = n := width_raw_spaces
  simp only [innerLine, Line.width_append, Line.width_cons, Span.width, Span.raw, hside, hpad]
    at hleft ⊢
  simp only [Line.width, List.foldr_nil, shownWidth]
  omega

theorem width_bottomBorder (left inner : Nat) :
    (bottomBorder (Text.spaces left) inner).width = left + 2 + inner := by
  have hleft := width_raw_spaces left
  have hall : ∀ c ∈ ("└" ++ Text.repeated '─' inner ++ "┘").toList, Text.IsNarrow c := by
    intro c hc
    apply Text.isNarrow_drawn
    simp only [String.toList_append, Text.toList_repeated, List.mem_append] at hc
    rcases hc with (hopen | hdash) | hclose
    · simp_all
    · simp [List.eq_of_mem_replicate hdash]
    · simp_all
  have hborder : Text.width ("└" ++ Text.repeated '─' inner ++ "┘") = inner + 2 := by
    rw [Text.width, Text.listWidth_of_narrow hall]
    simp
  simp only [bottomBorder, Line.width_cons, Span.width, Span.raw, hborder] at hleft ⊢
  simp only [Line.width, List.foldr_nil]
  omega

/-- Where each row of a box ends. -/
theorem straight_iff (title : String) (lines : List Line) (boxWidth width : Nat) :
    (∀ row ∈ rows title lines boxWidth width,
      row.width = margin boxWidth width + outer boxWidth width) ↔
    Text.width (shownTitle title boxWidth width) = (shownTitle title boxWidth width).length ∧
      ∀ line ∈ lines, shownWidth (inner boxWidth width) line =
        min line.width (inner boxWidth width) := by
  have houter := two_add_inner boxWidth width
  have htop := width_topBorder (margin boxWidth width) (inner boxWidth width) title
  have hline := width_innerLine (margin boxWidth width) (inner boxWidth width)
  have hbottom := width_bottomBorder (margin boxWidth width) (inner boxWidth width)
  simp only [rows, List.cons_append, List.forall_mem_cons, List.forall_mem_append, List.mem_map,
    forall_exists_index, and_imp, forall_apply_eq_imp_iff₂]
  unfold shownTitle
  constructor
  case mp =>
    rintro ⟨hrow, hrows, -⟩
    refine ⟨by omega, fun line hmem => ?_⟩
    have := hrows line hmem
    have := hline line
    omega
  case mpr =>
    rintro ⟨hshown, hshowns⟩
    refine ⟨by omega, fun line hmem => ?_, by omega, nofun⟩
    have := hshowns line hmem
    have := hline line
    omega

/-! ## Texts that agree with their columns -/

theorem length_cells_cons (span : Span) (spans : List Span) :
    (Line.cells { spans := span :: spans }).length =
      span.text.length + (Line.cells { spans := spans }).length := by
  simp [Line.cells, Span.cells, String.length_toList]

/-- A line that has no more characters than there is room for is shown whole. -/
theorem shownWidth_of_fits {inner : Nat} {line : Line} (h : line.cells.length ≤ inner) :
    shownWidth inner line = line.width := by
  obtain ⟨spans, style⟩ := line
  change (Line.cells { spans := spans }).length ≤ inner at h
  change Line.width { spans := clip inner spans } = Line.width { spans := spans }
  induction spans generalizing inner with
  | nil => rfl
  | cons span rest ih =>
      rw [length_cells_cons] at h
      have hkept : Text.compact span.text inner = span.text :=
        Text.compact_of_length_le (by omega)
      have hrest : Line.width { spans := clip (inner - span.text.length) rest } =
          Line.width { spans := rest } :=
        ih (by omega)
      rcases Nat.eq_zero_or_pos inner with rfl | hpos
      · -- what is left are spans without text
        have hempty : span.text = "" := String.length_eq_zero_iff.mp (by omega)
        have hwidth : span.width = 0 := by rw [Span.width, hempty]; rfl
        rw [Nat.zero_sub, clip_zero] at hrest
        rw [clip_zero, Line.width_cons, hwidth, ← hrest]
        rfl
      · rw [clip_cons_of_pos hpos]
        simp only [Line.width_cons, hkept, hrest]
        rfl

theorem width_of_narrow {spans : List Span}
    (h : ∀ cell ∈ Line.cells { spans := spans }, Text.IsNarrow cell.1) :
    Line.width { spans := spans } = (Line.cells { spans := spans }).length := by
  induction spans with
  | nil => rfl
  | cons span rest ih =>
      simp only [Line.cells, List.flatMap_cons, List.forall_mem_append] at h
      have hspan : span.width = span.text.length := by
        rw [Span.width, Text.width, Text.listWidth_of_narrow, String.length_toList]
        intro c hc
        exact h.1 (c, span.style) (List.mem_map_of_mem hc)
      rw [Line.width_cons, length_cells_cons, hspan, ih h.2]

/-- Of a line of narrow characters as many columns are shown as there is room for. -/
theorem shownWidth_of_narrow {inner : Nat} {line : Line}
    (h : ∀ cell ∈ line.cells, Text.IsNarrow cell.1) :
    shownWidth inner line = min line.width inner := by
  obtain ⟨spans, style⟩ := line
  change ∀ cell ∈ Line.cells { spans := spans }, Text.IsNarrow cell.1 at h
  change Line.width { spans := clip inner spans } = min (Line.width { spans := spans }) inner
  rw [width_of_narrow h]
  induction spans generalizing inner with
  | nil => simp [clip, Line.width, Line.cells]
  | cons span rest ih =>
      simp only [Line.cells, List.flatMap_cons, List.forall_mem_append] at h
      have hnarrow : ∀ c ∈ span.text.toList, Text.IsNarrow c := by
        intro c hc
        exact h.1 (c, span.style) (List.mem_map_of_mem hc)
      have hshown : Span.width ⟨Text.compact span.text inner, span.style.withBg .panel⟩ =
          min span.text.length inner := by
        rw [Span.width, Text.width, Text.toList_compact,
          Text.listWidth_of_narrow (Text.narrow_compactChars hnarrow inner),
          Text.length_compactChars, String.length_toList]
      have hlength : (Text.compact span.text inner).length = min span.text.length inner := by
        rw [← String.length_toList, Text.toList_compact, Text.length_compactChars,
          String.length_toList]
      have hrest (room : Nat) : Line.width { spans := clip room rest } =
          min (Line.cells { spans := rest }).length room :=
        ih h.2
      rw [length_cells_cons]
      rcases Nat.eq_zero_or_pos inner with rfl | hpos
      · simp [clip_zero, Line.width]
      · rw [clip_cons_of_pos hpos, Line.width_cons, hrest, hshown]
        omega

theorem width_shownTitle_of_narrow {title : String} (boxWidth width : Nat)
    (h : ∀ c ∈ title.toList, Text.IsNarrow c) :
    Text.width (shownTitle title boxWidth width) = (shownTitle title boxWidth width).length := by
  have hspaced : ∀ c ∈ (" " ++ title ++ " ").toList, Text.IsNarrow c := by
    intro c hc
    simp only [String.toList_append, List.mem_append] at hc
    rcases hc with (hspace | htitle) | hspace
    · exact Text.isNarrow_drawn c (by simp_all)
    · exact h c htitle
    · exact Text.isNarrow_drawn c (by simp_all)
  rw [shownTitle, Text.width, ← String.length_toList, Text.toList_compact]
  exact Text.listWidth_of_narrow (Text.narrow_compactChars hspaced _)

end Box

open Box

/-- A box is drawn below the lines that centre it, and never by a difference that there is
not.  All its rows take the columns left of it and its own exactly when the title takes
one column for each of its characters, and each line, as it is cut, as many columns as it
takes whole or as the box has room for.  A line with no more characters than there is
room for is not cut, and a box of narrow characters is always straight. -/
theorem box_borders_straight_iff
    (title : String) (lines : List Line) (boxWidth width height : Nat) :
    framed? title lines boxWidth width height =
      some (framed title lines boxWidth width height) ∧
    framed title lines boxWidth width height =
      List.replicate (gap height lines.length) Line.blank ++ rows title lines boxWidth width ∧
    ((∀ row ∈ rows title lines boxWidth width,
        row.width = margin boxWidth width + outer boxWidth width) ↔
      Text.width (shownTitle title boxWidth width) = (shownTitle title boxWidth width).length ∧
        ∀ line ∈ lines, shownWidth (inner boxWidth width) line =
          min line.width (inner boxWidth width)) ∧
    (∀ line ∈ lines, line.cells.length ≤ inner boxWidth width →
      shownWidth (inner boxWidth width) line = line.width) ∧
    ((∀ c ∈ title.toList, Text.IsNarrow c) →
      (∀ line ∈ lines, ∀ cell ∈ line.cells, Text.IsNarrow cell.1) →
      ∀ row ∈ rows title lines boxWidth width,
        row.width = margin boxWidth width + outer boxWidth width) := by
  refine ⟨framed?_eq, framed_eq _ _ _ _ _, straight_iff _ _ _ _, ?_, ?_⟩
  · intro line _ hfits
    exact shownWidth_of_fits hfits
  · intro htitle hlines
    refine (straight_iff _ _ _ _).mpr ⟨width_shownTitle_of_narrow _ _ htitle, ?_⟩
    intro line hline
    exact shownWidth_of_narrow (hlines line hline)

/-- A title of wide characters bends the upper border. -/
theorem box_border_bent :
    ¬ ∀ (title : String) (lines : List Line) (boxWidth width height : Nat),
      ∀ row ∈ framed title lines boxWidth width height, row = Line.blank ∨
        row.width = margin boxWidth width + outer boxWidth width := by
  intro h
  have hrow : topBorder (Text.spaces 4) "漢字" 10 ∈ framed "漢字" [] 12 20 2 := by
    decide
  rcases h "漢字" [] 12 20 2 _ hrow with hblank | hwidth
  · exact absurd hblank (by decide)
  · exact absurd hwidth (by decide +kernel)

end ClusterNav
