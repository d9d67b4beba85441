import ClusterNav.Proofs.FilterOperations

/-!
# Initials

In find mode a letter leads to the first row whose value starts with it, and the page
marks the rows that letters lead to.  The jump looks at all rows, the marks at those of
the page alone.  So a mark is kept when no page before the one shown has a row of the
same letter, and otherwise the letter leads away from it, to an earlier page.

**Results.**
* `FilterList.findInitial?_eq_some_iff`: where a letter leads to.
* `FilterList.marked_iff`: which rows of a page are marked.
* `FilterList.exists_earlier_iff`: the rows above a page are those of the pages before it.
* `initials_jump_and_mark`: the jumps and the marks of every list.
-/

namespace ClusterNav
namespace Select
namespace FilterList

variable {l : FilterList} {letter : Char} {entry : FilterMatch}

/-! ## Where a letter leads to -/

/-- The value of a row starts with a letter, up to the case of A to Z. -/
def Starts (l : FilterList) (letter : Char) (entry : FilterMatch) : Prop :=
  ∃ value first, l.values[entry.index]? = some value ∧ value.toList.head? = some first ∧
    first.toLower = letter.toLower

/-- A row is the first of some rows whose value starts with a letter. -/
structure FirstWith
    (l : FilterList)
    (letter : Char)
    (rows : List FilterMatch)
    (position : Nat) : Prop where
  starts : ∃ entry, rows[position]? = some entry ∧ l.Starts letter entry
  first : ∀ q < position, ∀ entry, rows[q]? = some entry → ¬ l.Starts letter entry

theorem initial?_eq_some_iff
    {c : Char} :
    l.initial? entry = some c ↔
      ∃ value first, l.values[entry.index]? = some value ∧ value.toList.head? = some first ∧
        first.toLower = c := by
  rw [initial?, Option.map_eq_some_iff]
  constructor
  · rintro ⟨first, hfirst, hlower⟩
    obtain ⟨value, hvalue, hhead⟩ := Option.bind_eq_some_iff.mp hfirst
    exact ⟨value, first, hvalue, hhead, hlower⟩
  · rintro ⟨value, first, hvalue, hhead, hlower⟩
    exact ⟨first, Option.bind_eq_some_iff.mpr ⟨value, hvalue, hhead⟩, hlower⟩

theorem starts_iff :
    l.Starts letter entry ↔ l.initial? entry = some letter.toLower :=
  initial?_eq_some_iff.symm

/-- A row with an initial starts with the first letter of its value. -/
theorem exists_starts_of_initial?
    {c : Char}
    (h : l.initial? entry = some c) :
    ∃ letter, l.Starts letter entry ∧ letter.toLower = c := by
  obtain ⟨value, first, hvalue, hhead, hlower⟩ := initial?_eq_some_iff.mp h
  exact ⟨first, ⟨value, first, hvalue, hhead, rfl⟩, hlower⟩

/-- Two letters that a value starts with are one letter. -/
theorem Starts.iff
    {other : Char}
    (h : l.Starts letter entry) (hother : l.Starts other entry)
    (row : FilterMatch) :
    l.Starts letter row ↔ l.Starts other row := by
  have hsame : some letter.toLower = some other.toLower := by
    rw [← starts_iff.mp h, ← starts_iff.mp hother]
  rw [starts_iff, starts_iff, hsame]

theorem FirstWith.of_starts
    {other : Char} {rows : List FilterMatch} {position : Nat}
    (h : l.FirstWith letter rows position)
    (hentry : rows[position]? = some entry)
    (hother : l.Starts other entry) :
    l.FirstWith other rows position := by
  obtain ⟨found, hfound, hstarts⟩ := h.starts
  obtain rfl : found = entry := Option.some.inj (hfound.symm.trans hentry)
  refine ⟨⟨found, hentry, hother⟩, ?_⟩
  intro q hq row hrow hrowStarts
  exact h.first q hq row hrow ((hstarts.iff hother row).mpr hrowStarts)

/-- A letter leads to the first row that starts with it. -/
theorem findInitial?_eq_some_iff
    {position : Nat} :
    l.findInitial? letter = some position ↔ l.FirstWith letter l.visible position := by
  rw [findInitial?, List.findIdx?_eq_some_iff_getElem]
  constructor
  · rintro ⟨hlt, hstarts, hfirst⟩
    refine ⟨⟨_, List.getElem?_eq_getElem hlt, starts_iff.mpr (beq_iff_eq.mp hstarts)⟩, ?_⟩
    intro q hq entry hentry hstarts
    obtain ⟨hql, rfl⟩ := List.getElem?_eq_some_iff.mp hentry
    exact hfirst q hq (beq_iff_eq.mpr (starts_iff.mp hstarts))
  · rintro ⟨⟨entry, hentry, hstarts⟩, hfirst⟩
    obtain ⟨hlt, rfl⟩ := List.getElem?_eq_some_iff.mp hentry
    refine ⟨hlt, beq_iff_eq.mpr (starts_iff.mp hstarts), ?_⟩
    intro q hq hmatches
    exact hfirst q hq _ (List.getElem?_eq_getElem (Nat.lt_trans hq hlt))
      (starts_iff.mpr (beq_iff_eq.mp hmatches))

theorem findInitial?_eq_none_iff :
    l.findInitial? letter = none ↔ ∀ entry ∈ l.visible, ¬ l.Starts letter entry := by
  rw [findInitial?, List.findIdx?_eq_none_iff]
  simp only [starts_iff, beq_eq_false_iff_ne, ne_eq]

/-- A row that starts with a letter is not above the one that the letter leads to. -/
theorem exists_findInitial?_le
    {position : Nat}
    (hentry : l.visible[position]? = some entry)
    (hstarts : l.Starts letter entry) :
    ∃ found ≤ position, l.findInitial? letter = some found := by
  cases hfound : l.findInitial? letter with
  | none =>
      exact absurd hstarts (findInitial?_eq_none_iff.mp hfound _ (List.mem_of_getElem? hentry))
  | some found =>
      refine ⟨found, Nat.le_of_not_lt fun hlt => ?_, rfl⟩
      exact (findInitial?_eq_some_iff.mp hfound).first position hlt entry hentry hstarts

/-- Without such a row a jump changes nothing, and says so. -/
theorem jump_of_none
    (h : l.findInitial? letter = none) :
    l.jump letter = (l, false) := by
  rw [jump, h]

/-- A jump moves the cursor, and turns to its page. -/
theorem jump_of_some
    {position : Nat}
    (h : l.findInitial? letter = some position) :
    l.jump letter =
      ({ l with cursor := position, paginator := l.paginator.follow position }, true) := by
  obtain ⟨entry, hentry, -⟩ := (findInitial?_eq_some_iff.mp h).starts
  obtain ⟨hlt, -⟩ := List.getElem?_eq_some_iff.mp hentry
  have hposition : min position (l.visible.length - 1) = position := by
    omega
  rw [jump, h]
  show (l.selectVisible position, true) = _
  rw [selectVisible, hposition]

theorem cursor_jumpToInitial
    {position : Nat}
    (h : l.findInitial? letter = some position) :
    (l.jumpToInitial letter).cursor = position := by
  rw [jumpToInitial, jump_of_some h]

/-! ## Marks -/

/-- There is a letter in a place, neither seen before nor in a place above. -/
def NewAt (seen : List Char) (letters : List (Option Char)) (i : Nat) : Prop :=
  ∃ c, letters[i]? = some (some c) ∧ c ∉ seen ∧ ∀ j < i, letters[j]? ≠ some (some c)

section Marks

variable {seen : List Char} {head : Option Char} {letters : List (Option Char)} {i : Nat}

theorem newAt_zero_iff :
    NewAt seen (head :: letters) 0 ↔ ∃ c, head = some c ∧ c ∉ seen := by
  simp [NewAt]

/-- Below a letter, the letter counts as seen. -/
theorem newAt_succ_iff :
    NewAt seen (head :: letters) (i + 1) ↔ NewAt (head.toList ++ seen) letters i := by
  refine exists_congr fun c => ?_
  rw [List.getElem?_cons_succ, Nat.forall_lt_succ_left]
  simp only [List.getElem?_cons_zero, List.getElem?_cons_succ, List.mem_append,
    Option.mem_toList, ne_eq, Option.some.injEq, not_or, and_assoc, and_left_comm]

/-- Marked are the letters in places where they are new. -/
theorem firstOfEach_eq_some_true_iff :
    (firstOfEach seen letters)[i]? = some true ↔ NewAt seen letters i := by
  induction letters generalizing seen i with
  | nil =>
      simp [firstOfEach, NewAt]
  | cons head rest ih =>
      cases head with
      | none =>
          cases i with
          | zero =>
              simp [firstOfEach, newAt_zero_iff]
          | succ i =>
              rw [newAt_succ_iff, firstOfEach, List.getElem?_cons_succ, ih]
              rfl
      | some c =>
          by_cases hseen : c ∈ seen
          · have hcontains : seen.contains c = true := List.contains_iff_mem.mpr hseen
            rw [firstOfEach, if_pos hcontains]
            cases i with
            | zero =>
                simpa [newAt_zero_iff] using hseen
            | succ i =>
                -- to see a letter once more is to see nothing new
                have hsame : ∀ d, d ∈ [c] ++ seen ↔ d ∈ seen := by
                  simp [hseen]
                rw [newAt_succ_iff, List.getElem?_cons_succ, ih]
                simp only [NewAt, Option.toList_some, hsame]
          · have hcontains : ¬ seen.contains c = true := by
              rwa [List.contains_iff_mem]
            rw [firstOfEach, if_neg hcontains]
            cases i with
            | zero =>
                simpa [newAt_zero_iff] using hseen
            | succ i =>
                rw [newAt_succ_iff, List.getElem?_cons_succ, ih]
                rfl

end Marks

/-- A row of the page is marked when it is the first of the page with its initial. -/
theorem marked_iff
    {i : Nat} :
    l.initialHints[i]? = some true ↔ ∃ letter, l.FirstWith letter l.pageEntries i := by
  have hletter (j : Nat) (c : Char) :
      (l.pageEntries.map l.initial?)[j]? = some (some c) ↔
        ∃ entry, l.pageEntries[j]? = some entry ∧ l.initial? entry = some c := by
    rw [List.getElem?_map, Option.map_eq_some_iff]
  rw [initialHints, firstOfEach_eq_some_true_iff]
  constructor
  · rintro ⟨c, hc, -, habove⟩
    obtain ⟨entry, hentry, hinitial⟩ := (hletter i c).mp hc
    obtain ⟨letter, hstarts, rfl⟩ := exists_starts_of_initial? hinitial
    refine ⟨letter, ⟨entry, hentry, hstarts⟩, ?_⟩
    intro j hj other hother hsame
    exact habove j hj ((hletter j _).mpr ⟨other, hother, starts_iff.mp hsame⟩)
  · rintro ⟨letter, ⟨entry, hentry, hstarts⟩, hfirst⟩
    refine ⟨letter.toLower, (hletter i _).mpr ⟨entry, hentry, starts_iff.mp hstarts⟩,
      List.not_mem_nil, ?_⟩
    intro j hj hc
    obtain ⟨other, hother, hinitial⟩ := (hletter j _).mp hc
    exact hfirst j hj other hother (starts_iff.mpr hinitial)

/-! ## The pages before the one shown -/

/-- The rows that a page of the list would show. -/
def entriesOn (l : FilterList) (page : Nat) : List FilterMatch :=
  pageEntries { l with paginator := { l.paginator with page := page } }

namespace Paged

variable {values : List String} {n : Nat}

theorem start_eq
    (h : l.Paged values n) :
    l.pageBounds.1 = l.paginator.page * n := by
  have hstart := h.start_add_mod
  have hsplit := Nat.div_add_mod l.cursor n
  rw [Nat.mul_comm] at hsplit
  rw [h.page_eq]
  omega

/-- A page shows the rows that follow those of the pages before it. -/
theorem entriesOn_eq
    (h : l.Paged values n)
    (page : Nat) :
    l.entriesOn page = (l.visible.drop (page * n)).take n := by
  have hentries : l.entriesOn page =
      (l.visible.drop (min (page * l.paginator.perPage) l.paginator.total)).take
        (min (min (page * l.paginator.perPage) l.paginator.total + l.paginator.perPage)
          l.paginator.total - min (page * l.paginator.perPage) l.paginator.total) := by
    rfl
  rw [hentries, h.perPage_eq, h.total_eq]
  rcases Nat.le_total (page * n) l.visible.length with hle | hge
  · rw [Nat.min_eq_left hle, List.take_eq_take_iff, List.length_drop]
    omega
  · rw [Nat.min_eq_right hge, List.drop_length, List.drop_eq_nil_of_le hge]
    simp

theorem entriesOn_getElem?_eq_some_iff
    (h : l.Paged values n)
    {page i : Nat} :
    (l.entriesOn page)[i]? = some entry ↔ i < n ∧ l.visible[page * n + i]? = some entry := by
  rw [h.entriesOn_eq, List.getElem?_take, List.getElem?_drop]
  split
  · rename_i hlt
    simp [hlt]
  · rename_i hge
    simp [hge]

/-- The rows above a page are the rows of the pages before it. -/
theorem exists_earlier_iff
    (h : l.Paged values n)
    {P : FilterMatch → Prop} :
    (∃ page < l.paginator.page, ∃ entry ∈ l.entriesOn page, P entry) ↔
      ∃ q < l.pageBounds.1, ∃ entry, l.visible[q]? = some entry ∧ P entry := by
  rw [h.start_eq]
  constructor
  · rintro ⟨page, hpage, entry, hentry, hP⟩
    obtain ⟨i, hi⟩ := List.mem_iff_getElem?.mp hentry
    obtain ⟨hlt, hvisible⟩ := h.entriesOn_getElem?_eq_some_iff.mp hi
    have hbefore : (page + 1) * n ≤ l.paginator.page * n :=
      Nat.mul_le_mul_right n hpage
    rw [Nat.add_mul, Nat.one_mul] at hbefore
    exact ⟨page * n + i, by omega, entry, hvisible, hP⟩
  · rintro ⟨q, hq, entry, hentry, hP⟩
    refine ⟨q / n, Nat.div_lt_of_lt_mul (by rwa [Nat.mul_comm]), entry, ?_, hP⟩
    apply List.mem_of_getElem? (i := q % n)
    rw [h.entriesOn_getElem?_eq_some_iff, Nat.mul_comm, Nat.div_add_mod]
    exact ⟨Nat.mod_lt _ h.pos, hentry⟩

/-! ## Jumps to marked rows -/

/-- A row of the page is a row of the list. -/
theorem visible_of_pageEntries
    (h : l.Paged values n)
    {i : Nat}
    (hentry : l.pageEntries[i]? = some entry) :
    i < n ∧ l.visible[l.pageBounds.1 + i]? = some entry := by
  rw [h.start_eq]
  exact h.entriesOn_getElem?_eq_some_iff.mp hentry

/-- The first row of a page with a letter is where the letter leads to, when no row
above the page has the letter. -/
theorem findInitial?_of_firstWith
    (h : l.Paged values n)
    {i : Nat}
    (hfirst : l.FirstWith letter l.pageEntries i)
    (habove : ∀ q < l.pageBounds.1, ∀ entry, l.visible[q]? = some entry →
      ¬ l.Starts letter entry) :
    l.findInitial? letter = some (l.pageBounds.1 + i) := by
  obtain ⟨entry, hentry, hstarts⟩ := hfirst.starts
  obtain ⟨hi, hvisible⟩ := h.visible_of_pageEntries hentry
  refine findInitial?_eq_some_iff.mpr ⟨⟨entry, hvisible, hstarts⟩, ?_⟩
  intro q hq other hother
  rcases Nat.lt_or_ge q l.pageBounds.1 with hlt | hge
  · exact habove q hlt other hother
  · obtain ⟨j, rfl⟩ := Nat.exists_eq_add_of_le hge
    apply hfirst.first j (by omega) other
    rw [h.pageEntries_getElem? (by omega)]
    exact hother

/-- When a page before has the letter, it leads to a row above the page. -/
theorem cursor_jumpToInitial_lt
    (h : l.Paged values n)
    (hearlier : ∃ page < l.paginator.page, ∃ entry ∈ l.entriesOn page, l.Starts letter entry) :
    (l.jumpToInitial letter).cursor < l.pageBounds.1 := by
  obtain ⟨q, hq, entry, hentry, hstarts⟩ := h.exists_earlier_iff.mp hearlier
  obtain ⟨found, hle, hfound⟩ := exists_findInitial?_le hentry hstarts
  rw [cursor_jumpToInitial hfound]
  exact Nat.lt_of_le_of_lt hle hq

/-- The letter of a row that is the first of its page leads to the row exactly when no
page before has the letter. -/
theorem cursor_jumpToInitial_eq_iff
    (h : l.Paged values n)
    {i : Nat}
    (hfirst : l.FirstWith letter l.pageEntries i) :
    (l.jumpToInitial letter).cursor = l.pageBounds.1 + i ↔
      ∀ page < l.paginator.page, ∀ entry ∈ l.entriesOn page, ¬ l.Starts letter entry := by
  constructor
  · intro hcursor page hpage entry hentry hstarts
    have hlt := h.cursor_jumpToInitial_lt ⟨page, hpage, entry, hentry, hstarts⟩
    omega
  · intro hnone
    have hfound : l.findInitial? letter = some (l.pageBounds.1 + i) := by
      refine h.findInitial?_of_firstWith hfirst fun q hq entry hentry hstarts => ?_
      obtain ⟨page, hpage, other, hother, hsame⟩ :=
        h.exists_earlier_iff.mpr ⟨q, hq, entry, hentry, hstarts⟩
      exact hnone page hpage other hother hsame
    rw [cursor_jumpToInitial hfound]

end Paged

end FilterList

open FilterList in
/-- In every list: A letter leads to the first row whose value starts with it, up to the
case of A to Z.  The jump moves the cursor there and turns to its page; when there is no
such row, it changes nothing; and it says which of the two it was.  Marked are exactly the rows of the page that are the
first of the page with an initial.  From a marked row its letter leads to this row
exactly when no page before has a row of the same initial, and otherwise to a row above
the page. -/
theorem initials_jump_and_mark (values : List String) (operations : List Operation) :
    let l := (ofValues values).performAll operations
    (∀ letter,
      (∃ position, l.findInitial? letter = some position ∧
        l.FirstWith letter l.visible position ∧
        l.jump letter =
          ({ l with cursor := position, paginator := l.paginator.follow position }, true)) ∨
      (l.findInitial? letter = none ∧
        (∀ entry ∈ l.visible, ¬ l.Starts letter entry) ∧
        l.jump letter = (l, false))) ∧
    (∀ letter, l.jumpToInitial letter = (l.jump letter).1) ∧
    l.initialHints.length = l.pageEntries.length ∧
    (∀ i, l.initialHints[i]? = some true ↔ ∃ letter, l.FirstWith letter l.pageEntries i) ∧
    (∀ i entry letter, l.initialHints[i]? = some true → l.pageEntries[i]? = some entry →
      l.Starts letter entry →
      ((l.jumpToInitial letter).cursor = l.pageBounds.1 + i ↔
        ∀ page < l.paginator.page, ∀ other ∈ l.entriesOn page, ¬ l.Starts letter other) ∧
      ((∃ page < l.paginator.page, ∃ other ∈ l.entriesOn page, l.Starts letter other) →
        (l.jumpToInitial letter).cursor < l.pageBounds.1)) := by
  intro l
  have h := paged_performAll values operations
  change l.Paged _ _ at h
  refine ⟨?_, fun _ => rfl, ?_, fun i => marked_iff, ?_⟩
  · intro letter
    cases hfound : l.findInitial? letter with
    | none =>
        exact Or.inr ⟨rfl, findInitial?_eq_none_iff.mp hfound, jump_of_none hfound⟩
    | some position =>
        exact Or.inl ⟨position, rfl, findInitial?_eq_some_iff.mp hfound,
          jump_of_some hfound⟩
  · rw [initialHints, length_firstOfEach, List.length_map]
  · intro i entry letter hmarked hentry hstarts
    obtain ⟨other, hfirst⟩ := marked_iff.mp hmarked
    exact ⟨h.cursor_jumpToInitial_eq_iff (hfirst.of_starts hentry hstarts),
      h.cursor_jumpToInitial_lt⟩

end Select
end ClusterNav
