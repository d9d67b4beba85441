import ClusterNav.Proofs.FilterMatches
import ClusterNav.Proofs.PickerWindow
import ClusterNav.Proofs.SortedSelection

/-!
# The box that chooses a scope

A box with the namespaces or contexts to choose from is narrowed down by typing and is
given a new size whenever the screen is.  The size decides how many names stand on a page
and where the box stands on the screen; the cursor decides which page it is.

**Results.**
* `ScopePicker.InBox.useAll`: the names and the size of the page after any use.
* `ScopePicker.InBox.length_body_le`: a box in at least five rows fits in them.
* `ScopePicker.InBox.cursor_row`: the row under the cursor, and what it chooses.
* `ScopePicker.InBox.showsAt_cursor`: how that row is drawn.
* `scope_box_shows_choice`: what this says of every box and every use.
-/

namespace ClusterNav

open Select

namespace ScopePicker

open ColumnPicker (Use)

variable {v : ScopePicker} {kind : PickerKind} {names : List String} {current : String}

/-! ## The names on the page -/

/-- The box offers some names, and its pages are as its height asks, or as before it was
first given a size. -/
structure InBox (kind : PickerKind) (names : List String) (v : ScopePicker) : Prop where
  kind_eq : v.kind = kind
  paged : v.list.Paged names v.list.paginator.perPage
  fits : v.list.paginator.perPage = pageRows v.height ∨
    v.list.paginator.perPage = 10 ∧ v.height = 20

theorem inBox_ofNames (kind : PickerKind) (names : List String) (current : String) :
    InBox kind (choices kind names) (ofNames kind names current) := by
  have hpaged : (ofNames kind names current).list.Paged (choices kind names) 10 :=
    ((FilterList.paged_ofValues _).withState _).selectFirst _
  have hperPage := hpaged.perPage_eq
  exact ⟨rfl, hperPage ▸ hpaged, Or.inr ⟨hperPage, rfl⟩⟩

theorem paged_edit
    {n : Nat}
    (h : v.list.Paged names n)
    (k : Key) :
    (v.edit k).Paged names n := by
  unfold edit
  split
  case h_1 | h_2 => exact h.popChar
  case h_11 =>
    split
    · exact h.pushChar _
    · exact h
  all_goals exact h.cursorKey k

/-- What a box is told. -/
def use (v : ScopePicker) : Use → ScopePicker
  | .key k => (v.key k).view
  | .size width height => v.setSize width height

def useAll (v : ScopePicker) (uses : List Use) : ScopePicker :=
  uses.foldl use v

namespace InBox

theorem key
    (h : InBox kind names v)
    (k : Key) :
    InBox kind names (v.key k).view := by
  have hedit : InBox kind names { v with list := v.edit k } := by
    have hpaged := paged_edit h.paged k
    have hperPage := hpaged.perPage_eq
    refine ⟨h.kind_eq, hperPage ▸ hpaged, ?_⟩
    rw [hperPage]
    exact h.fits
  unfold ScopePicker.key
  split
  · exact h
  · unfold enter
    split <;> exact h
  · exact hedit

theorem setSize
    (h : InBox kind names v)
    (width height : Nat) :
    InBox kind names (v.setSize width height) := by
  have hone : 1 ≤ pageRows height := by
    unfold pageRows
    omega
  have hperPage : (v.list.setPerPage (pageRows height)).paginator.perPage = pageRows height :=
    Nat.max_eq_left hone
  have hpaged := h.paged.setPerPage (pageRows height)
  rw [Nat.max_eq_left hone] at hpaged
  exact ⟨h.kind_eq, hperPage ▸ hpaged, Or.inl hperPage⟩

theorem useAll
    (h : InBox kind names v)
    (uses : List Use) :
    InBox kind names (v.useAll uses) := by
  induction uses generalizing v with
  | nil =>
      exact h
  | cons use uses ih =>
      cases use with
      | key k =>
          exact ih (h.key k)
      | size width height =>
          exact ih (h.setSize width height)

end InBox

/-! ## The lines of the box -/

/-- The lines between the borders. -/
def boxLines (v : ScopePicker) : List Line :=
  { spans := Line.prompt "> " v.list.filter } :: v.nameLines ++
    if v.list.visible.isEmpty then [Line.note "  no matches"] else []

theorem body_eq (v : ScopePicker) :
    v.body = Box.framed v.kind.title v.boxLines boxWidth v.width v.height := rfl

theorem length_nameLines (v : ScopePicker) : v.nameLines.length = v.list.pageEntries.length := by
  rw [nameLines, List.length_map, List.length_zipIdx]

namespace InBox

theorem length_pageEntries_le
    (h : InBox kind names v) :
    v.list.pageEntries.length ≤ v.list.paginator.perPage := by
  have hlength := h.paged.length_pageEntries
  have hstop := h.paged.stop_eq
  omega

/-- The prompt and a page of names, or the prompt and a note. -/
theorem length_boxLines_le
    (h : InBox kind names v) :
    v.boxLines.length ≤ v.list.paginator.perPage + 1 := by
  have hpage := h.length_pageEntries_le
  have hpos := h.paged.pos
  unfold boxLines
  cases hvisible : v.list.visible with
  | nil =>
      have hentries : v.list.pageEntries = [] := by
        simp [FilterList.pageEntries, hvisible]
      have hnames : v.nameLines = [] := by
        rw [← List.length_eq_zero_iff, length_nameLines, hentries]
        rfl
      simp only [hnames, List.isEmpty_nil, if_true, List.length_append, List.length_cons,
        List.length_nil]
      omega
  | cons entry rest =>
      simp only [List.isEmpty_cons, Bool.false_eq_true, if_false, List.append_nil,
        List.length_cons, length_nameLines]
      omega

/-- A box in at least five rows fits in them. -/
theorem length_body_le
    (h : InBox kind names v)
    (hheight : 5 ≤ v.height) :
    v.body.length ≤ v.height := by
  have hlines := h.length_boxLines_le
  have hroom : v.list.paginator.perPage + 3 ≤ v.height := by
    rcases h.fits with hfits | ⟨hfits, htall⟩
    · unfold pageRows at hfits
      omega
    · omega
  rw [body_eq, Box.length_framed]
  unfold Box.gap
  omega

/-- Below the prompt, the name under the cursor is as far down as the cursor is on its
page, and it is the name that is chosen. -/
theorem cursor_row
    (h : InBox kind names v)
    (hvisible : v.list.visible ≠ []) :
    ∃ name, v.selected? = some name ∧
      v.boxLines[v.list.cursor - v.list.pageBounds.1 + 1]? = some (v.nameLine name true) := by
  have hpaged := h.paged
  obtain ⟨entry, hentry, hpage, hindex⟩ := hpaged.selected_on_page hvisible
  obtain ⟨name, hname⟩ := Option.isSome_iff_exists.mp
    (hpaged.value?_isSome (List.mem_of_getElem? hentry))
  have hplace : v.list.pageBounds.1 + (v.list.cursor - v.list.pageBounds.1) = v.list.cursor := by
    have hstart := hpaged.start_add_mod
    omega
  have hrow : v.nameLines[v.list.cursor - v.list.pageBounds.1]? =
      some (v.nameLine name true) := by
    simp [nameLines, List.getElem?_map, List.getElem?_zipIdx, hpage, hname, hplace]
  refine ⟨name, ?_, ?_⟩
  · rw [selected?, hindex, Option.bind_some, hname]
  · rw [boxLines, List.cons_append, List.getElem?_cons_succ,
      List.getElem?_append_left (List.getElem?_eq_some_iff.mp hrow).1, hrow]

/-- Below the prompt are the names of the page, and one of them is under the cursor. -/
theorem eq_prompt_or_nameLine
    (h : InBox kind names v)
    (hvisible : v.list.visible ≠ [])
    {i : Nat} {line : Line}
    (hline : v.boxLines[i]? = some line) :
    (i = 0 ∧ line = { spans := Line.prompt "> " v.list.filter }) ∨
    ∃ name, line = v.nameLine name (i == v.list.cursor - v.list.pageBounds.1 + 1) := by
  rw [boxLines, if_neg (by simpa using hvisible), List.append_nil] at hline
  cases i with
  | zero =>
      exact Or.inl ⟨rfl, (Option.some.inj hline).symm⟩
  | succ i =>
      have hstart := h.paged.start_add_mod
      rw [List.getElem?_cons_succ, nameLines, List.getElem?_map, List.getElem?_zipIdx,
        Option.map_map] at hline
      obtain ⟨entry, -, rfl⟩ := Option.map_eq_some_iff.mp hline
      refine Or.inr ⟨(v.list.value? entry.index).getD "", ?_⟩
      have hplace : (v.list.pageBounds.1 + i == v.list.cursor) =
          (i + 1 == v.list.cursor - v.list.pageBounds.1 + 1) := by
        rw [Bool.eq_iff_iff, beq_iff_eq, beq_iff_eq]
        omega
      rw [← hplace]
      rfl

end InBox

/-! ## The row under the cursor -/

/-- Before a name stands a mark when it is the current one. -/
def mark (v : ScopePicker) (name : String) : String :=
  if name = v.current then "● " else "  "

theorem length_mark (name : String) : (v.mark name).length = 2 := by
  unfold mark
  split <;> rfl

theorem width_mark (name : String) : Text.width (v.mark name) = 2 := by
  unfold mark
  split <;> decide +kernel

theorem nameLine_eq (name : String) (atCursor : Bool) :
    v.nameLine name atCursor =
      { spans :=
          [⟨v.mark name, .colored .accent⟩,
           ⟨name, if atCursor then (Style.plain.withBg .selected).emphasized else .plain⟩] } := by
  simp [nameLine, mark]

theorem hasCursorText_nameLine_iff (name : String) (atCursor : Bool) :
    (v.nameLine name atCursor).HasCursorText ↔ atCursor = true := by
  cases atCursor <;>
    simp [nameLine, Line.HasCursorText, Style.colored, Style.plain, Style.withBg, Style.emphasized]

theorem hasBoldText_nameLine_iff (name : String) (atCursor : Bool) :
    (v.nameLine name atCursor).HasBoldText ↔ atCursor = true := by
  cases atCursor <;>
    simp [nameLine, Line.HasBoldText, Style.colored, Style.plain, Style.withBg, Style.emphasized]

/-- A box has room for the mark and some of the name. -/
theorem hasBoldText_innerLine_nameLine_iff (left name : String) (atCursor : Bool) :
    (Box.innerLine left (Box.inner boxWidth v.width) (v.nameLine name atCursor)).HasBoldText ↔
      atCursor = true := by
  constructor
  · intro hbold
    rw [← v.hasBoldText_nameLine_iff name]
    by_contra hplain
    exact Box.not_hasBoldText_innerLine hplain _ _ hbold
  · rintro rfl
    have hroom := Box.six_le_inner boxWidth v.width
    have hlength := v.length_mark name
    have hmark : Text.compact (v.mark name) (Box.inner boxWidth v.width) = v.mark name :=
      Text.compact_of_length_le (by omega)
    rw [Box.hasBoldText_innerLine_iff, nameLine_eq]
    dsimp only
    rw [Box.clip_cons_of_pos (by omega), hmark, Box.clip_cons_of_pos (by omega)]
    exact ⟨_, List.mem_cons_of_mem _ List.mem_cons_self, rfl⟩

theorem text_innerLine_nameLine (left name : String) (atCursor : Bool) (room : Nat)
    (hroom : 2 ≤ room) :
    (Box.innerLine left room (v.nameLine name atCursor)).text =
      left ++ "│" ++ v.mark name ++ Text.compact name (room - 2) ++
        Text.spaces (room - min (2 + Text.width name) room) ++ "│" := by
  have hlength : (⟨v.mark name, .colored .accent⟩ : Span).text.length = 2 := v.length_mark name
  have hwidth : (v.nameLine name atCursor).width = 2 + Text.width name := by
    simp [nameLine_eq, Line.width, Span.width, width_mark]
  have hshown : Box.shownText room (v.nameLine name atCursor) =
      v.mark name ++ Text.compact name (room - 2) := by
    rw [nameLine_eq, Box.shownText_cons (by omega), hlength, Box.shownText_singleton]
  rw [Box.text_innerLine, hshown, hwidth]
  simp only [String.append_assoc]

/-- A name in its place in the box: it follows its mark, and no other line of the box has
text on the background of the cursor.  It stands so between the borders, cut to the room
there is; there the background is that of the box, and no other line has text in bold. -/
structure ShowsAt (v : ScopePicker) (name : String) (place : Nat) : Prop where
  row : v.boxLines[place]? = some (v.nameLine name true)
  text : (v.nameLine name true).text = v.mark name ++ name
  alone : ∀ (i : Nat) (line : Line),
    v.boxLines[i]? = some line → (line.HasCursorText ↔ i = place)
  drawn : v.body[Box.gap v.height v.boxLines.length + 1 + place]? =
    some (Box.innerLine (Text.spaces (Box.margin boxWidth v.width)) (Box.inner boxWidth v.width)
      (v.nameLine name true))
  drawn_text :
    (Box.innerLine (Text.spaces (Box.margin boxWidth v.width)) (Box.inner boxWidth v.width)
      (v.nameLine name true)).text =
      Text.spaces (Box.margin boxWidth v.width) ++ "│" ++ v.mark name ++
        Text.compact name (Box.inner boxWidth v.width - 2) ++
        Text.spaces (Box.inner boxWidth v.width -
          min (2 + Text.width name) (Box.inner boxWidth v.width)) ++ "│"
  drawn_alone : ∀ i < v.boxLines.length, ∀ line : Line,
    v.body[Box.gap v.height v.boxLines.length + 1 + i]? = some line →
      (line.HasBoldText ↔ i = place)

/-- The name under the cursor is in its place. -/
theorem InBox.showsAt_cursor
    (h : InBox kind names v)
    (hvisible : v.list.visible ≠ []) :
    ∃ name, v.selected? = some name ∧
      v.ShowsAt name (v.list.cursor - v.list.pageBounds.1 + 1) := by
  obtain ⟨name, hname, hrow⟩ := h.cursor_row hvisible
  have hdrawn := Box.getElem?_framed v.kind.title v.boxLines boxWidth v.width v.height
  have hroom := Box.six_le_inner boxWidth v.width
  refine ⟨name, hname, hrow, ?_, ?_, ?_, text_innerLine_nameLine _ _ _ _ (by omega), ?_⟩
  · rw [nameLine_eq, Line.text_cons, Line.text_cons, Line.text_nil, String.append_empty]
  · intro i line hline
    rcases h.eq_prompt_or_nameLine hvisible hline with ⟨rfl, rfl⟩ | ⟨other, rfl⟩
    · simp [Line.HasCursorText, Line.prompt, Span.raw, Style.colored, Style.plain]
    · rw [hasCursorText_nameLine_iff, beq_iff_eq]
  · rw [body_eq, hdrawn _ (List.getElem?_eq_some_iff.mp hrow).1, hrow]
    rfl
  · intro i hi line hline
    rw [body_eq, hdrawn i hi] at hline
    obtain ⟨shown, hshown, rfl⟩ := Option.map_eq_some_iff.mp hline
    rcases h.eq_prompt_or_nameLine hvisible hshown with ⟨rfl, rfl⟩ | ⟨other, rfl⟩
    · have hplain : ¬ Line.HasBoldText { spans := Line.prompt "> " v.list.filter } := by
        simp [Line.HasBoldText, Line.prompt, Span.raw, Style.colored, Style.plain]
      simp [Box.not_hasBoldText_innerLine hplain]
    · rw [hasBoldText_innerLine_nameLine_iff, beq_iff_eq]

/-! ## The choice -/

theorem all_mem_choices (names : List String) :
    NamespaceScope.allLabel ∈ choices .namespaces names := by
  unfold choices
  dsimp only
  split
  case isTrue hmem => exact List.contains_iff_mem.mp hmem
  case isFalse => exact List.mem_cons_self

/-- Without a filter, every name that is offered is shown. -/
theorem InBox.shown_of_unfiltered
    (h : InBox kind names v)
    (hfilter : v.list.filter = "")
    {name : String}
    (hname : name ∈ names) :
    ∃ entry ∈ v.list.visible, v.list.value? entry.index = some name := by
  obtain ⟨i, hi⟩ := List.getElem?_of_mem hname
  refine ⟨⟨i, []⟩, ?_, ?_⟩
  · rw [h.paged.visible_of_filter_empty hfilter]
    exact List.mem_map.mpr ⟨(name, i), List.mk_mem_zipIdx_iff_getElem?.mpr hi, rfl⟩
  · rw [FilterList.value?, h.paged.values_eq]
    exact hi

/-- A box is opened on the current name. -/
theorem selected?_ofNames
    (hcurrent : current ∈ choices kind names) :
    (ofNames kind names current).selected? = some current := by
  set list := (FilterList.ofValues (choices kind names)).startFilter with hlist
  have hpaged : list.Paged (choices kind names) 10 :=
    (FilterList.paged_ofValues _).withState _
  set isCurrent : FilterMatch → Bool := fun entry => list.value? entry.index == some current
    with hisCurrent
  have hfound : (list.visible.find? isCurrent).isSome := by
    obtain ⟨i, hi⟩ := List.getElem?_of_mem hcurrent
    rw [List.find?_isSome]
    refine ⟨⟨i, []⟩, ?_, ?_⟩
    · rw [hpaged.visible_of_filter_empty rfl]
      exact List.mem_map.mpr ⟨(current, i), List.mk_mem_zipIdx_iff_getElem?.mpr hi, rfl⟩
    · simp only [hisCurrent, FilterList.value?, hpaged.values_eq, hi, beq_self_eq_true]
  obtain ⟨entry, hentry⟩ := Option.isSome_iff_exists.mp hfound
  have hvalue : list.value? entry.index = some current := by
    simpa [hisCurrent] using List.find?_some hentry
  have hvalues : (list.selectFirst isCurrent).values = list.values :=
    (hpaged.selectFirst isCurrent).values_eq.trans hpaged.values_eq.symm
  have hindex : (list.selectFirst isCurrent).selectedIndex? = some entry.index :=
    FilterList.selectedIndex?_selectFirst hentry
  show (list.selectFirst isCurrent).selectedIndex?.bind (list.selectFirst isCurrent).value? = _
  rw [hindex, Option.bind_some, FilterList.value?, hvalues]
  exact hvalue

/-- New sizes leave the choice as it is. -/
theorem selected?_of_sizes
    {uses : List Use}
    (h : ∀ use ∈ uses, ∃ width height, use = .size width height) :
    (v.useAll uses).selected? = v.selected? := by
  induction uses generalizing v with
  | nil =>
      rfl
  | cons use uses ih =>
      obtain ⟨width, height, rfl⟩ := h use List.mem_cons_self
      exact ih (v := v.setSize width height) fun use huse => h use (List.mem_cons_of_mem _ huse)

theorem key_enter
    {k : Key}
    (hk : k.name = "enter") :
    v.key k = v.enter := by
  simp [key, hk]

/-- A key changes nothing but the names that are shown. -/
theorem exists_view_key_eq (v : ScopePicker) (k : Key) :
    ∃ list, (v.key k).view = { v with list := list } := by
  unfold key enter
  split
  · exact ⟨v.list, rfl⟩
  · split <;> exact ⟨v.list, rfl⟩
  · exact ⟨v.edit k, rfl⟩

theorem current_useAll (uses : List Use) : (v.useAll uses).current = v.current := by
  induction uses generalizing v with
  | nil =>
      rfl
  | cons use uses ih =>
      refine (ih (v := v.use use)).trans ?_
      cases use with
      | key k =>
          obtain ⟨list, hview⟩ := v.exists_view_key_eq k
          show (v.key k).view.current = _
          rw [hview]
      | size width height =>
          rfl

/-- The height of a box is that of the last size it was given. -/
theorem five_le_height
    {uses : List Use}
    (h : ∀ width height, Use.size width height ∈ uses → 5 ≤ height)
    (hv : 5 ≤ v.height) :
    5 ≤ (v.useAll uses).height := by
  induction uses generalizing v with
  | nil =>
      exact hv
  | cons use uses ih =>
      have hrest : ∀ width height, Use.size width height ∈ uses → 5 ≤ height :=
        fun width height hmem => h width height (List.mem_cons_of_mem _ hmem)
      cases use with
      | key k =>
          obtain ⟨list, hview⟩ := v.exists_view_key_eq k
          refine ih (v := (v.key k).view) hrest ?_
          rwa [hview]
      | size width height =>
          exact ih (v := v.setSize width height) hrest (h width height List.mem_cons_self)

end ScopePicker

open ScopePicker in
/-- In all uses of a box: it offers the names it was opened with, and among namespaces
one for all of them, which is shown unless a filter is typed; it is opened on the current
name, which stays chosen however the box is fitted.  As long as it is given at least five
rows it fits in them.  When a name matches, the one under the cursor is drawn as far below
the prompt as the cursor is on its page, with its mark and alone as the one under the
cursor, and enter sends it and takes the box away; when none matches, enter does nothing. -/
theorem scope_box_shows_choice
    (kind : PickerKind) (names : List String) (current : String)
    (uses : List ColumnPicker.Use) :
    let v := (ofNames kind names current).useAll uses
    v.list.values = choices kind names ∧ v.current = current ∧
    (kind = .namespaces → NamespaceScope.allLabel ∈ v.list.values ∧
      (v.list.filter = "" → ∃ entry ∈ v.list.visible,
        v.list.value? entry.index = some NamespaceScope.allLabel)) ∧
    (current ∈ choices kind names →
      (∀ use ∈ uses, ∃ width height, use = .size width height) →
      v.selected? = some current) ∧
    ((∀ width height, .size width height ∈ uses → 5 ≤ height) → v.body.length ≤ v.height) ∧
    (v.list.visible ≠ [] → ∃ name, v.selected? = some name ∧
      v.ShowsAt name (v.list.cursor - v.list.pageBounds.1 + 1) ∧
      ∀ k : Key, k.name = "enter" →
        v.key k = { view := v, move := .pop, effect := some (.emit (.selected kind name)) }) ∧
    (v.list.visible = [] → ∀ k : Key, k.name = "enter" → v.key k = { view := v }) := by
  intro v
  have hbox : InBox kind (choices kind names) v := (inBox_ofNames kind names current).useAll uses
  refine ⟨hbox.paged.values_eq, current_useAll uses, ?_, ?_, ?_, ?_, ?_⟩
  · rintro rfl
    refine ⟨hbox.paged.values_eq ▸ all_mem_choices names, fun hfilter => ?_⟩
    exact hbox.shown_of_unfiltered hfilter (all_mem_choices names)
  · intro hcurrent hsizes
    exact (selected?_of_sizes hsizes).trans (selected?_ofNames hcurrent)
  · intro hsizes
    exact hbox.length_body_le (five_le_height hsizes (show 5 ≤ 20 by decide))
  · intro hvisible
    obtain ⟨name, hname, hshown⟩ := hbox.showsAt_cursor hvisible
    refine ⟨name, hname, hshown, fun k hk => ?_⟩
    rw [key_enter hk, enter, hname, hbox.kind_eq]
  · intro hnone k hk
    have hchoice : v.selected? = none := by
      simp [selected?, FilterList.selectedIndex?, hnone]
    rw [key_enter hk, enter, hchoice]

end ClusterNav
