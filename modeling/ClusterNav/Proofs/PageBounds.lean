import ClusterNav.Proofs.FilterPages
import Mathlib.Data.Nat.PSub

/-!
# Pages and their bounds

Rows are cut into pages, and the size of a page and the number of rows change apart from
each other, at any time.  Every operation turns back to a page that exists, so the
bounds always lie within the rows.  The arithmetic is done in words of 64 bits, which
are never too small: the rows before a page are some of the rows of a list, and if there
are any, then a page has no more rows than these.

**Results.**
* `Paginator.lt_pages_iff`: which pages exist.
* `Paginator.Sound.performAll`: after all operations the page shown exists.
* `Paginator.Sound.flatMap_rows_onPage`: the pages side by side are all rows.
* `Paginator.foldlM_perform?`: the operations in words do the same.
* `pages_cut_rows`: the bounds after all operations.
-/

namespace ClusterNav
namespace Select
namespace Paginator

/-! ## Operations -/

/-- What can be done to the pages of a list. -/
inductive Operation
  | setTotal (total : Nat)
  | setPerPage (n : Nat)
  | follow (cursor : Nat)

def perform (p : Paginator) : Operation → Paginator
  | .setTotal total => p.setTotal total
  | .setPerPage n => p.setPerPage n
  | .follow cursor => p.follow cursor

def performAll (p : Paginator) (operations : List Operation) : Paginator :=
  operations.foldl perform p

/-- The same pages, with another one shown. -/
def onPage (p : Paginator) (page : Nat) : Paginator :=
  { p with page := page }

/-- The numbers of the rows on the page. -/
def rows (p : Paginator) : List Nat :=
  List.range' p.bounds.1 (p.bounds.2 - p.bounds.1)

/-- A page has rows, and the page shown is one of the pages. -/
structure Sound (p : Paginator) : Prop where
  perPage_pos : 0 < p.perPage
  page_lt : p.page < p.pages

section Pages

variable {p : Paginator} {k : Nat}

theorem pages_pos (p : Paginator) : 0 < p.pages :=
  Nat.le_max_right _ _

/-- Beside the first page, those pages exist that begin with a row. -/
theorem lt_pages_iff (hpos : 0 < p.perPage) :
    k < p.pages ↔ k = 0 ∨ k * p.perPage < p.total := by
  have hquotient : k < (p.total + p.perPage - 1) / p.perPage ↔ k * p.perPage < p.total := by
    rw [Nat.lt_iff_add_one_le, Nat.le_div_iff_mul_le hpos, Nat.add_mul]
    omega
  rw [pages]
  omega

theorem page_clamp_lt (p : Paginator) (page : Nat) : min page (p.pages - 1) < p.pages := by
  have hpos := p.pages_pos
  omega

theorem sound_new (perPage : Nat) : (new perPage).Sound where
  perPage_pos := Nat.le_max_right _ _
  page_lt := pages_pos _

namespace Sound

theorem setTotal
    (h : p.Sound)
    (total : Nat) :
    (p.setTotal total).Sound where
  perPage_pos := h.perPage_pos
  page_lt := page_clamp_lt { p with total := total } p.page

theorem setPerPage
    (p : Paginator)
    (n : Nat) :
    (p.setPerPage n).Sound where
  perPage_pos := Nat.le_max_right _ _
  page_lt := page_clamp_lt { p with perPage := max n 1 } p.page

theorem follow
    (h : p.Sound)
    (cursor : Nat) :
    (p.follow cursor).Sound where
  perPage_pos := h.perPage_pos
  page_lt := page_clamp_lt p (cursor / p.perPage)

/-- Every operation turns to a page that exists. -/
theorem perform
    (h : p.Sound)
    (operation : Operation) :
    (p.perform operation).Sound := by
  cases operation with
  | setTotal total =>
      exact h.setTotal total
  | setPerPage n =>
      exact setPerPage p n
  | follow cursor =>
      exact h.follow cursor

/-- After all operations the page shown exists. -/
theorem performAll
    (h : p.Sound)
    (operations : List Operation) :
    (p.performAll operations).Sound := by
  induction operations generalizing p with
  | nil =>
      exact h
  | cons operation rest ih =>
      exact ih (h.perform operation)

theorem onPage
    (h : p.Sound)
    (hk : k < p.pages) :
    (p.onPage k).Sound :=
  ⟨h.perPage_pos, hk⟩

/-! ## Bounds of a page -/

theorem start_le (h : p.Sound) : p.page * p.perPage ≤ p.total := by
  rcases (lt_pages_iff h.perPage_pos).mp h.page_lt with hfirst | hlt
  · rw [hfirst, Nat.zero_mul]
    exact Nat.zero_le _
  · exact Nat.le_of_lt hlt

theorem start_lt
    (h : p.Sound)
    (htotal : 0 < p.total) :
    p.page * p.perPage < p.total := by
  rcases (lt_pages_iff h.perPage_pos).mp h.page_lt with hfirst | hlt
  · rwa [hfirst, Nat.zero_mul]
  · exact hlt

theorem bounds_eq (h : p.Sound) :
    p.bounds = (p.page * p.perPage, min (p.page * p.perPage + p.perPage) p.total) := by
  rw [bounds, Nat.min_eq_left h.start_le]

theorem bounds_le (h : p.Sound) : p.bounds.1 ≤ p.bounds.2 ∧ p.bounds.2 ≤ p.total := by
  have hstart := h.start_le
  rw [h.bounds_eq]
  dsimp only
  omega

/-- A page has a row when there are rows. -/
theorem bounds_lt
    (h : p.Sound)
    (htotal : 0 < p.total) :
    p.bounds.1 < p.bounds.2 := by
  have hpos := h.perPage_pos
  have hstart := h.start_lt htotal
  rw [h.bounds_eq]
  dsimp only
  omega

/-- The page of a row has it between its bounds. -/
theorem bounds_follow
    (h : p.Sound)
    {cursor : Nat}
    (hcursor : cursor < p.total) :
    (p.follow cursor).bounds.1 ≤ cursor ∧ cursor < (p.follow cursor).bounds.2 := by
  have hpage : (p.follow cursor).page = cursor / p.perPage :=
    page_follow h.perPage_pos (Nat.le_sub_one_of_lt hcursor)
  have hbefore : cursor / p.perPage * p.perPage ≤ cursor := Nat.div_mul_le_self _ _
  have hafter : cursor < cursor / p.perPage * p.perPage + p.perPage := by
    have hnext := Nat.lt_mul_div_succ cursor h.perPage_pos
    rwa [Nat.mul_comm, Nat.add_mul, Nat.one_mul] at hnext
  rw [(h.follow cursor).bounds_eq, hpage, total_follow, perPage_follow]
  dsimp only
  omega

/-! ## All pages side by side -/

/-- A page before the last is full. -/
theorem bounds_onPage_of_lt
    (h : p.Sound)
    (hk : k + 1 < p.pages) :
    (p.onPage k).bounds = (k * p.perPage, k * p.perPage + p.perPage) := by
  have hnext : (k + 1) * p.perPage < p.total := by
    rcases (lt_pages_iff h.perPage_pos).mp hk with hzero | hlt
    · cases hzero
    · exact hlt
  rw [Nat.add_mul, Nat.one_mul] at hnext
  rw [(h.onPage (Nat.lt_of_succ_lt hk)).bounds_eq]
  exact Prod.ext rfl (Nat.min_eq_left (Nat.le_of_lt hnext))

/-- The last page ends with the last row. -/
theorem total_le_of_last
    (h : p.Sound)
    (hk : k + 1 = p.pages) :
    p.total ≤ k * p.perPage + p.perPage := by
  have hnone : ¬ k + 1 < p.pages := by
    omega
  rw [lt_pages_iff h.perPage_pos, Nat.add_mul, Nat.one_mul] at hnone
  omega

theorem bounds_onPage_of_last
    (h : p.Sound)
    (hk : k + 1 = p.pages) :
    (p.onPage k).bounds = (k * p.perPage, p.total) := by
  rw [(h.onPage (Nat.lt_of_succ_le (Nat.le_of_eq hk))).bounds_eq]
  exact Prod.ext rfl (Nat.min_eq_right (h.total_le_of_last hk))

/-- The first pages are the first rows. -/
theorem flatMap_rows_onPage_of_le
    (h : p.Sound)
    (hk : k ≤ p.pages) :
    (List.range k).flatMap (fun page => (p.onPage page).rows) =
      List.range (min (k * p.perPage) p.total) := by
  induction k with
  | zero =>
      simp
  | succ k ih =>
      have hsound : (p.onPage k).Sound := h.onPage hk
      have hstart : k * p.perPage ≤ p.total := hsound.start_le
      have hrows : (p.onPage k).rows =
          List.range' (k * p.perPage)
            (min (k * p.perPage + p.perPage) p.total - k * p.perPage) := by
        rw [rows, hsound.bounds_eq]
        rfl
      have hstop : k * p.perPage +
            (min (k * p.perPage + p.perPage) p.total - k * p.perPage) =
          min ((k + 1) * p.perPage) p.total := by
        rw [Nat.add_mul, Nat.one_mul]
        omega
      rw [List.range_succ, List.flatMap_append, ih (Nat.le_of_succ_le hk), List.flatMap_singleton,
        hrows, Nat.min_eq_left hstart, List.range_eq_range', ← hstop, List.range_eq_range',
        ← List.range'_append_1, Nat.zero_add]

/-- The pages side by side are all rows. -/
theorem flatMap_rows_onPage (h : p.Sound) :
    (List.range p.pages).flatMap (fun page => (p.onPage page).rows) = List.range p.total := by
  have hpos := p.pages_pos
  have hlast := h.total_le_of_last (Nat.sub_add_cancel hpos)
  rw [h.flatMap_rows_onPage_of_le (Nat.le_refl _)]
  congr 1
  apply Nat.min_eq_right
  rwa [← Nat.add_one_mul, Nat.sub_add_cancel hpos] at hlast

end Sound

end Pages

/-! ## Words of 64 bits -/

/-- A number, when a word has room for it. -/
def word? (n : Nat) : Option Nat :=
  if n < 2 ^ 64 then some n else none

theorem word?_of_lt {n : Nat} (h : n < 2 ^ 64) : word? n = some n :=
  if_pos h

/-- A quotient of words, when there is one. -/
def quotient? (m n : Nat) : Option Nat :=
  if n = 0 then none else some (m / n)

/-- A quotient of words, and one more when there is a remainder. -/
def roundedUp? (m n : Nat) : Option Nat := do
  let full ← quotient? m n
  if m % n = 0 then some full else word? (full + 1)

/-- `pages` in words. -/
def pages? (p : Paginator) : Option Nat := do
  return max (← roundedUp? p.total p.perPage) 1

/-- The page in words that an operation turns to. -/
def turn? (p : Paginator) (page : Nat) : Option Paginator := do
  let last ← Nat.psub (← p.pages?) 1
  return { p with page := min page last }

def perform? (p : Paginator) : Operation → Option Paginator
  | .setTotal total => turn? { p with total := total } p.page
  | .setPerPage n => turn? { p with perPage := max n 1 } p.page
  | .follow cursor => do p.turn? (← quotient? cursor p.perPage)

def bounds? (p : Paginator) : Option (Nat × Nat) := do
  let start ← word? (p.page * p.perPage)
  let stop ← word? (min start p.total + p.perPage)
  return (min start p.total, min stop p.total)

/-- The numbers of an operation are words, and the number of rows is that of a list. -/
def Operation.Fits : Operation → Prop
  | .setTotal total => total < 2 ^ 63
  | .setPerPage n => n < 2 ^ 64
  | .follow cursor => cursor < 2 ^ 64

/-- The rows are those of a list, and the size of a page is a word. -/
structure Fits (p : Paginator) : Prop where
  perPage_lt : p.perPage < 2 ^ 64
  total_lt : p.total < 2 ^ 63

section Words

variable {p : Paginator}

theorem fits_new
    {perPage : Nat}
    (h : perPage < 2 ^ 64) :
    (new perPage).Fits where
  perPage_lt := Nat.max_lt.mpr ⟨h, by decide⟩
  total_lt := Nat.two_pow_pos 63

theorem Fits.perform
    (h : p.Fits)
    {operation : Operation}
    (hoperation : operation.Fits) :
    (p.perform operation).Fits := by
  cases operation with
  | setTotal total =>
      exact ⟨h.perPage_lt, hoperation⟩
  | setPerPage n =>
      exact ⟨Nat.max_lt.mpr ⟨hoperation, by decide⟩, h.total_lt⟩
  | follow cursor =>
      exact ⟨h.perPage_lt, h.total_lt⟩

theorem Fits.onPage
    (h : p.Fits)
    (page : Nat) :
    (p.onPage page).Fits :=
  ⟨h.perPage_lt, h.total_lt⟩

theorem quotient?_of_pos {m n : Nat} (hn : 0 < n) : quotient? m n = some (m / n) :=
  if_neg (Nat.ne_of_gt hn)

/-- To round a quotient up is to divide what is larger by all of the divisor but one. -/
theorem roundedUp?_eq
    {m n : Nat}
    (hn : 0 < n) (hm : m < 2 ^ 63) :
    roundedUp? m n = some ((m + n - 1) / n) := by
  have hsplit := Nat.div_add_mod m n
  have hlt := Nat.mod_lt m hn
  rw [roundedUp?, quotient?_of_pos hn]
  show (if m % n = 0 then some (m / n) else word? (m / n + 1)) = _
  split
  · rename_i hzero
    have hrest : (n - 1) / n = 0 := Nat.div_eq_of_lt (Nat.sub_lt hn Nat.one_pos)
    have hsum : m + n - 1 = n - 1 + n * (m / n) := by
      omega
    rw [hsum, Nat.add_mul_div_left _ _ hn, hrest, Nat.zero_add]
  · rename_i hmore
    have hrest : (m % n - 1) / n = 0 := Nat.div_eq_of_lt (Nat.lt_of_le_of_lt (Nat.sub_le _ _) hlt)
    have hsum : m + n - 1 = m % n - 1 + n * (m / n + 1) := by
      rw [Nat.mul_add, Nat.mul_one]
      omega
    have hfull : m / n + 1 < 2 ^ 64 := by
      have hle : m / n ≤ m := Nat.div_le_self _ _
      omega
    rw [hsum, Nat.add_mul_div_left _ _ hn, hrest, Nat.zero_add, word?_of_lt hfull]

theorem Fits.pages?_eq
    (h : p.Fits)
    (hpos : 0 < p.perPage) :
    p.pages? = some p.pages := by
  rw [pages?, roundedUp?_eq hpos h.total_lt]
  rfl

theorem Fits.turn?_eq
    (h : p.Fits)
    (hpos : 0 < p.perPage)
    (page : Nat) :
    p.turn? page = some { p with page := min page (p.pages - 1) } := by
  have hlast : Nat.psub p.pages 1 = some (p.pages - 1) :=
    Nat.psub_eq_some.mpr (Nat.sub_add_cancel p.pages_pos)
  rw [turn?, h.pages?_eq hpos]
  show Nat.psub p.pages 1 >>= _ = _
  rw [hlast]
  rfl

/-- An operation in words does the same. -/
theorem Fits.perform?_eq
    (h : p.Fits)
    (hpos : 0 < p.perPage)
    {operation : Operation}
    (hoperation : operation.Fits) :
    p.perform? operation = some (p.perform operation) := by
  have hafter := h.perform hoperation
  cases operation with
  | setTotal total =>
      exact Fits.turn?_eq ⟨hafter.perPage_lt, hafter.total_lt⟩ hpos p.page
  | setPerPage n =>
      exact Fits.turn?_eq ⟨hafter.perPage_lt, hafter.total_lt⟩ (Nat.le_max_right _ _) p.page
  | follow cursor =>
      rw [perform?, quotient?_of_pos hpos]
      exact h.turn?_eq hpos (cursor / p.perPage)

/-- All operations in words do the same, and leave words. -/
theorem foldlM_perform?
    (h : p.Fits)
    (hsound : p.Sound)
    {operations : List Operation}
    (hoperations : ∀ operation ∈ operations, operation.Fits) :
    operations.foldlM perform? p = some (p.performAll operations) ∧
      (p.performAll operations).Fits := by
  induction operations generalizing p with
  | nil =>
      exact ⟨rfl, h⟩
  | cons operation rest ih =>
      obtain ⟨hfirst, hrest⟩ := List.forall_mem_cons.mp hoperations
      rw [List.foldlM_cons, h.perform?_eq hsound.perPage_pos hfirst]
      exact ih (h.perform hfirst) (hsound.perform operation) hrest

/-- The bounds in words are the same: a page begins within the rows, and one that is not
the first is not larger than the number of rows. -/
theorem Fits.bounds?_eq
    (h : p.Fits)
    (hsound : p.Sound) :
    p.bounds? = some p.bounds := by
  have hstart := hsound.start_le
  have htotal := h.total_lt
  have hstop : p.page * p.perPage + p.perPage < 2 ^ 64 := by
    rcases Nat.eq_zero_or_pos p.page with hfirst | hlater
    · rw [hfirst, Nat.zero_mul, Nat.zero_add]
      exact h.perPage_lt
    · have hsize : p.perPage ≤ p.page * p.perPage := Nat.le_mul_of_pos_left _ hlater
      omega
  rw [bounds?, word?_of_lt (by omega)]
  show word? (min (p.page * p.perPage) p.total + p.perPage) >>= _ = _
  rw [Nat.min_eq_left hstart, word?_of_lt hstop, hsound.bounds_eq]
  rfl

end Words

end Paginator

open Paginator in
/-- However the rows of a list are counted, cut into pages of a size and followed: A page
has at least one row, and the page shown exists.  Its bounds are in order and within the
rows, with a row between them when there are rows, and the page of a row has the row
between its bounds.  Side by side the pages are all rows.  Each has as many rows as the
size says, except for the last: it may have fewer, but one at least when there are rows.
None of this takes more than words of 64 bits, if the rows are those of a list. -/
theorem pages_cut_rows
    (perPage : Nat) (operations : List Operation)
    (hperPage : perPage < 2 ^ 64)
    (hoperations : ∀ operation ∈ operations, operation.Fits) :
    let p := (new perPage).performAll operations
    operations.foldlM perform? (new perPage) = some p ∧
    1 ≤ p.perPage ∧ p.page < p.pages ∧
    p.bounds? = some p.bounds ∧
    p.bounds.1 ≤ p.bounds.2 ∧ p.bounds.2 ≤ p.total ∧
    (0 < p.total → p.bounds.1 < p.bounds.2) ∧
    (∀ cursor < p.total,
      (p.follow cursor).bounds.1 ≤ cursor ∧ cursor < (p.follow cursor).bounds.2) ∧
    (List.range p.pages).flatMap (fun page => (p.onPage page).rows) = List.range p.total ∧
    (∀ page < p.pages, (p.onPage page).bounds? = some (p.onPage page).bounds) ∧
    (∀ page, page + 1 < p.pages →
      (p.onPage page).bounds = (page * p.perPage, page * p.perPage + p.perPage)) ∧
    (∀ page, page + 1 = p.pages →
      (p.onPage page).bounds = (page * p.perPage, p.total) ∧
      p.total ≤ page * p.perPage + p.perPage ∧
      (0 < p.total → page * p.perPage < p.total)) := by
  intro p
  have hsound : p.Sound := (sound_new perPage).performAll operations
  obtain ⟨hwords, hfits⟩ := foldlM_perform? (fits_new hperPage) (sound_new perPage) hoperations
  refine ⟨hwords, hsound.perPage_pos, hsound.page_lt, hfits.bounds?_eq hsound, hsound.bounds_le.1,
    hsound.bounds_le.2, hsound.bounds_lt, ?_, hsound.flatMap_rows_onPage, ?_, ?_, ?_⟩
  · exact fun cursor hcursor => hsound.bounds_follow hcursor
  · exact fun page hpage => (hfits.onPage page).bounds?_eq (hsound.onPage hpage)
  · exact fun page hpage => hsound.bounds_onPage_of_lt hpage
  · intro page hpage
    have hlast : (p.onPage page).Sound :=
      hsound.onPage (Nat.lt_of_succ_le (Nat.le_of_eq hpage))
    exact ⟨hsound.bounds_onPage_of_last hpage, hsound.total_le_of_last hpage, hlast.start_lt⟩

open Paginator in
/-- Ten rows on pages of three, of which six are taken away while the last page is shown:
now the second page is the last, with one row. -/
theorem pages_cut_rows_shrunk :
    let operations : List Operation :=
      [.setTotal 10, .setPerPage 3, .follow 9, .setTotal 4]
    (2 ^ 64 - 1 < 2 ^ 64 ∧ ∀ operation ∈ operations, operation.Fits) ∧
      ((new (2 ^ 64 - 1)).performAll operations).bounds? = some (3, 4) := by
  intro operations
  have hfits : ∀ operation ∈ operations, operation.Fits := by
    simp [operations, Operation.Fits]
  obtain ⟨-, -, -, hbounds, -⟩ := pages_cut_rows (2 ^ 64 - 1) operations (by decide) hfits
  refine ⟨⟨by decide, hfits⟩, ?_⟩
  rw [hbounds]
  decide

end Select
end ClusterNav
