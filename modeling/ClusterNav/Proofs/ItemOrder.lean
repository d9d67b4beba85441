import ClusterNav.Item
import Mathlib.Data.List.Nodup
import Mathlib.Data.Prod.Lex
import Mathlib.Data.String.Basic

/-!
# The order of sorted items

A sort mode gives every item a key: its name, its status, its age in seconds, the tag of
its kind, or the class of its status, the worst class first.  The place of an item in a
sorted list is its key and then its name, in the lexicographic order.  Items in the same
place are left in the order in which they came.

**Results.**
* `SortMode.le_iff_place_le`: the comparison of a mode is the order of places.
* `SortMode.eq_of_inOrder`: a list in order is known by what stands in each place.
* `sorted_stably_by_place`: what sorting makes of a list, and that nothing else would do.
-/

namespace ClusterNav

namespace StatusClass

theorem rank_injective : Function.Injective rank := by
  intro a b hrank
  cases a <;> cases b <;> first | rfl | cases hrank

/-- The more severe class comes first. -/
instance : LinearOrder StatusClass :=
  LinearOrder.lift' rank rank_injective

end StatusClass

namespace SortMode

/-! ## Places -/

/-- What a mode sorts by is of this type. -/
def KeyType : SortMode → Type
  | .name | .status | .kind => String
  | .age => Nat
  | .problem => StatusClass

instance : (mode : SortMode) → LinearOrder mode.KeyType
  | .name | .status | .kind => inferInstanceAs (LinearOrder String)
  | .age => inferInstanceAs (LinearOrder Nat)
  | .problem => inferInstanceAs (LinearOrder StatusClass)

/-- What a mode sorts an item by. -/
def key : (mode : SortMode) → Item → mode.KeyType
  | .name, item => item.name
  | .status, item => item.status
  | .age, item => ageSeconds item.age
  | .kind, item => item.kind
  | .problem, item => StatusClass.ofStatus item.status

/-- The place of an item: what the mode sorts it by, and then its name. -/
def place (mode : SortMode) (item : Item) : mode.KeyType ×ₗ String :=
  toLex (mode.key item, item.name)

/-- Two comparisons, one after the other, are the order of pairs. -/
theorem isLE_then_compare_iff
    {α : Type} [LinearOrder α]
    (k other : α) (name otherName : String) :
    ((compare k other).then (compare name otherName)).isLE = true ↔
      toLex (k, name) ≤ toLex (other, otherName) := by
  rw [Prod.Lex.toLex_le_toLex, Ordering.isLE_then_iff_or, compare_lt_iff_lt, compare_eq_iff_eq,
    ← Ordering.ne_gt_iff_isLE]
  exact or_congr Iff.rfl (and_congr Iff.rfl compare_le_iff_le)

/-- The comparison of a mode is the order of places. -/
theorem le_iff_place_le
    (mode : SortMode) (a b : Item) :
    mode.le a b = true ↔ mode.place a ≤ mode.place b := by
  cases mode with
  | name =>
      have hsame : (compare a.name b.name).then (compare a.name b.name) =
          compare a.name b.name := by
        cases compare a.name b.name <;> rfl
      have hpair := isLE_then_compare_iff a.name b.name a.name b.name
      rw [hsame] at hpair
      exact hpair
  | status =>
      exact isLE_then_compare_iff a.status b.status a.name b.name
  | age =>
      exact isLE_then_compare_iff (ageSeconds a.age) (ageSeconds b.age) a.name b.name
  | kind =>
      exact isLE_then_compare_iff a.kind b.kind a.name b.name
  | problem =>
      exact isLE_then_compare_iff (StatusClass.ofStatus a.status) (StatusClass.ofStatus b.status)
        a.name b.name

theorem trans_le
    (mode : SortMode) (a b c : Item)
    (hab : mode.le a b = true)
    (hbc : mode.le b c = true) :
    mode.le a c = true := by
  rw [le_iff_place_le] at *
  exact le_trans hab hbc

theorem total_le
    (mode : SortMode) (a b : Item) :
    (mode.le a b || mode.le b a) = true := by
  rw [Bool.or_eq_true, le_iff_place_le, le_iff_place_le]
  exact le_total _ _

/-! ## Lists in order -/

/-- Items that stand in the order of their places. -/
def InOrder (mode : SortMode) (items : List Item) : Prop :=
  items.Pairwise fun a b => mode.place a ≤ mode.place b

/-- The items in a place, in the order in which they come. -/
def inPlace (mode : SortMode) (place : mode.KeyType ×ₗ String) (items : List Item) : List Item :=
  items.filter (mode.place · = place)

variable {mode : SortMode} {items others : List Item}

theorem inOrder_sortItems (mode : SortMode) (items : List Item) :
    mode.InOrder (sortItems mode items) := by
  have hsorted : (sortItems mode items).Pairwise (mode.le · · = true) := by
    rw [sortItems]
    exact @List.pairwise_mergeSort _ mode.le mode.trans_le mode.total_le items
  exact hsorted.imp fun {a b} hle => (mode.le_iff_place_le a b).mp hle

/-- A list in order is not changed by sorting it. -/
theorem sortItems_of_inOrder
    (h : mode.InOrder items) :
    sortItems mode items = items := by
  rw [sortItems]
  apply List.mergeSort_of_pairwise
  exact h.imp fun {a b} hle => (mode.le_iff_place_le a b).mpr hle

theorem sortItems_perm (mode : SortMode) (items : List Item) :
    (sortItems mode items).Perm items :=
  List.mergeSort_perm items mode.le

/-- Of two items the first stays first, unless it has the later place. -/
theorem sortItems_pair (mode : SortMode) (a b : Item) :
    sortItems mode [a, b] = if mode.le a b then [a, b] else [b, a] := by
  rw [sortItems, List.mergeSort]
  simp [List.cons_merge_cons]

/-- Sorting leaves the items of a place in the order in which they came. -/
theorem inPlace_sortItems
    (mode : SortMode) (place : mode.KeyType ×ₗ String) (items : List Item) :
    mode.inPlace place (sortItems mode items) = mode.inPlace place items := by
  have htied : (mode.inPlace place items).Pairwise (mode.le · · = true) := by
    rw [inPlace, List.pairwise_filter]
    refine List.pairwise_of_forall fun a b ha hb => ?_
    rw [le_iff_place_le, of_decide_eq_true ha, of_decide_eq_true hb]
  have hkept : (mode.inPlace place items).Sublist (sortItems mode items) := by
    rw [sortItems]
    exact List.sublist_mergeSort mode.trans_le mode.total_le htied List.filter_sublist
  have hwithin := hkept.filter (mode.place · = place)
  rw [inPlace, List.filter_filter, ← inPlace] at hwithin
  simp only [Bool.and_self] at hwithin
  exact (hwithin.eq_of_length ((sortItems_perm mode items).filter _).length_eq.symm).symm

/-- The item that a list in order starts with stands in the least place. -/
theorem InOrder.place_le
    {first : Item} {rest : List Item}
    (h : mode.InOrder (first :: rest))
    {item : Item}
    (hitem : item ∈ first :: rest) :
    mode.place first ≤ mode.place item := by
  rcases List.mem_cons.mp hitem with rfl | hrest
  · exact le_refl _
  · exact List.rel_of_pairwise_cons h hrest

theorem mem_of_inPlace_eq
    (h : ∀ place, mode.inPlace place items = mode.inPlace place others)
    {item : Item}
    (hitem : item ∈ items) :
    item ∈ others := by
  have hmem : item ∈ mode.inPlace (mode.place item) items :=
    List.mem_filter.mpr ⟨hitem, decide_eq_true rfl⟩
  rw [h] at hmem
  exact List.mem_of_mem_filter hmem

/-- A list in order is known by what stands in each place. -/
theorem eq_of_inOrder
    (hitems : mode.InOrder items)
    (hothers : mode.InOrder others)
    (h : ∀ place, mode.inPlace place items = mode.inPlace place others) :
    items = others := by
  induction items generalizing others with
  | nil =>
      cases others with
      | nil =>
          rfl
      | cons other rest =>
          exact absurd (mem_of_inPlace_eq (fun place => (h place).symm) List.mem_cons_self)
            List.not_mem_nil
  | cons item rest ih =>
      cases others with
      | nil =>
          exact absurd (mem_of_inPlace_eq h List.mem_cons_self) List.not_mem_nil
      | cons other others =>
          -- Both lists start in the least place, and there with the same item.
          have hplace : mode.place item = mode.place other :=
            le_antisymm
              (hitems.place_le (mem_of_inPlace_eq (fun place => (h place).symm) List.mem_cons_self))
              (hothers.place_le (mem_of_inPlace_eq h List.mem_cons_self))
          obtain rfl : item = other := by
            have hfirst := h (mode.place item)
            rw [inPlace, inPlace, List.filter_cons_of_pos (by simp),
              List.filter_cons_of_pos (by simp [hplace])] at hfirst
            exact List.head_eq_of_cons_eq hfirst
          congr 1
          apply ih (List.Pairwise.of_cons hitems) (List.Pairwise.of_cons hothers)
          intro place
          have hrest := h place
          rw [inPlace, inPlace, List.filter_cons, List.filter_cons] at hrest
          split at hrest
          · exact List.tail_eq_of_cons_eq hrest
          · exact hrest

end SortMode

open SortMode in
/-- Sorting keeps all items and puts them in the order of their places, by the key of the
mode and then by name; the items of each place stay in the order in which they came.
No other list is like that.  So a sorted list is not changed by sorting it again, and
where no two items have the same place, it does not matter in which order they came. -/
theorem sorted_stably_by_place (mode : SortMode) (items : List Item) :
    let sorted := sortItems mode items
    sorted.Perm items ∧
    sorted.Pairwise (fun a b => mode.place a ≤ mode.place b) ∧
    (∀ place, mode.inPlace place sorted = mode.inPlace place items) ∧
    (∀ others : List Item, others.Pairwise (fun a b => mode.place a ≤ mode.place b) →
      (∀ place, mode.inPlace place others = mode.inPlace place items) → others = sorted) ∧
    sortItems mode sorted = sorted ∧
    ((items.map mode.place).Nodup →
      ∀ others : List Item, others.Perm items → sortItems mode others = sorted) := by
  intro sorted
  have horder : mode.InOrder sorted := inOrder_sortItems mode items
  refine ⟨sortItems_perm mode items, horder, fun place => inPlace_sortItems mode place items, ?_,
    sortItems_of_inOrder horder, ?_⟩
  · intro others hothers hplaces
    apply eq_of_inOrder hothers horder
    intro place
    rw [hplaces, inPlace_sortItems]
  · intro hdistinct others hothers
    have hperm : (sortItems mode others).Perm sorted :=
      ((sortItems_perm mode others).trans hothers).trans (sortItems_perm mode items).symm
    refine hperm.eq_of_pairwise ?_ (inOrder_sortItems mode others) horder
    intro a b ha hb hab hba
    have ha' : a ∈ items := (hperm.trans (sortItems_perm mode items)).mem_iff.mp ha
    have hb' : b ∈ items := (sortItems_perm mode items).mem_iff.mp hb
    exact List.inj_on_of_nodup_map hdistinct ha' hb' (le_antisymm hab hba)

end ClusterNav
