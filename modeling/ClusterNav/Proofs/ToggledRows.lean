import ClusterNav.View.ColumnPicker
import Mathlib.Data.List.Nodup

/-!
# Rows checked and unchecked

The blank changes the row under the cursor: it checks the row or unchecks it.  A box for
columns holds the ids that are checked in the order in which they were, but what it
would send tells nothing of that order.  A row is in it when it was checked at first and
was changed an even number of times, or the other way round; only the changes count that
were made since the choice was last taken back.

**Results.**
* `ColumnPicker.keyChange`: the three things that a key does to a box.
* `ColumnPicker.Changed.key`, `ColumnPicker.changed_afterKeys`: what is checked after one
  key, and after any keys.
* `ColumnPicker.Changed.visibleIds_eq`: what a box sends, by the number of changes.
* `chosen_rows_by_parity`: what this says of all ways to use a box.
-/

namespace ClusterNav

namespace PickerRow

/-- Is a row chosen after so many changes, when these ids were chosen at first? -/
def isChosen (opening : List String) (changes : Nat) : PickerRow → Bool
  | .heading _ => false
  | .column row => row.locked || (opening.contains row.id ^^ changes % 2 == 1)

variable {row : PickerRow} {c : ColumnRow}

theorem free?_eq_some_iff : row.free? = some c ↔ row = .column c ∧ c.locked = false := by
  cases row with
  | heading title =>
      simp [free?]
  | column other =>
      rw [free?, column.injEq]
      cases hlocked : other.locked with
      | true =>
          rw [if_pos rfl]
          constructor
          · nofun
          · rintro ⟨rfl, hfree⟩
            rw [hlocked] at hfree
            cases hfree
      | false =>
          rw [if_neg (by decide), Option.some.injEq]
          constructor
          · rintro rfl
            exact ⟨rfl, hlocked⟩
          · exact And.left

end PickerRow

namespace ColumnPicker

/-! ## Checked ids -/

section Ids

variable {checked : List String} (hchecked : checked.Nodup)
include hchecked

theorem nodup_toggleId (id : String) : (toggleId checked id).Nodup := by
  unfold toggleId
  split
  · exact hchecked.erase id
  · rename_i hid
    rw [← List.concat_eq_append]
    exact hchecked.concat (by simpa using hid)

/-- Of all ids, only the one that is changed is checked where it was not before. -/
theorem contains_toggleId (id other : String) :
    (toggleId checked id).contains other = (checked.contains other ^^ other == id) := by
  by_cases hother : other = id
  · subst hother
    by_cases hmem : other ∈ checked
    · simp [toggleId, hmem, hchecked.not_mem_erase]
    · simp [toggleId, hmem]
  · have hne : (other == id) = false := beq_eq_false_iff_ne.mpr hother
    rw [hne, Bool.xor_false]
    unfold toggleId
    split
    · simp [List.mem_erase_of_ne hother]
    · simp [hother]

end Ids

/-! ## Keys -/

/-- What a key makes of a box. -/
inductive KeyChange (p : ColumnPicker) (k : Key) (q : ColumnPicker) : Prop
  | changes (hblank : k.isSpace = true) (hq : q = p.toggle)
  | reverts (hkey : k.name = "r") (hq : q = { p with checked := p.opening })
  | moves (hblank : k.isSpace = false) (hkey : k.name ≠ "r") (cursor offset : Nat)
      (hq : q = { p with cursor := cursor, offset := offset })

theorem keyChange (p : ColumnPicker) (k : Key) : p.KeyChange k (p.key k).view := by
  have hmove (place : Option Nat) :
      ∃ cursor offset, p.moveTo place = { p with cursor := cursor, offset := offset } := by
    cases place <;> exact ⟨_, _, rfl⟩
  unfold key
  split
  · rename_i hblank
    exact .changes hblank rfl
  rename_i hblank
  rw [Bool.not_eq_true] at hblank
  split
  case h_3 hkey =>
      exact .reverts hkey rfl
  case h_4 hkey | h_5 hkey | h_6 hkey | h_7 hkey =>
      obtain ⟨cursor, offset, hq⟩ := hmove _
      exact .moves hblank (by simp [hkey]) cursor offset hq
  case h_1 hkey | h_2 hkey =>
      exact .moves hblank (by simp [hkey]) p.cursor p.offset rfl
  case h_8 =>
      exact .moves hblank (by assumption) p.cursor p.offset rfl

def afterKeys (p : ColumnPicker) (ks : List Key) : ColumnPicker :=
  ks.foldl (fun q k => (q.key k).view) p

/-- The row that a key changes: the one under the cursor, where it is free. -/
def changed? (p : ColumnPicker) (k : Key) : Option Nat :=
  if k.isSpace then (p.rows[p.cursor]?.bind PickerRow.free?).map fun _ => p.cursor else none

/-- The rows changed since the choice was last taken back, with one key more. -/
def changesAfter (p : ColumnPicker) (changes : List Nat) (k : Key) : List Nat :=
  if k.name == "r" then [] else (p.changed? k).toList ++ changes

/-- The rows that keys change, without the changes that are taken back. -/
def changesOf (p : ColumnPicker) (changes : List Nat) : List Key → List Nat
  | [] => changes
  | k :: ks => changesOf (p.key k).view (p.changesAfter changes k) ks

variable {p q : ColumnPicker} {changes : List Nat}

/-- Every row has an id of its own. -/
theorem place_eq
    (hids : (p.rows.filterMap PickerRow.id?).Nodup)
    {i j : Nat} {c d : ColumnRow}
    (hi : p.rows[i]? = some (.column c))
    (hj : p.rows[j]? = some (.column d))
    (hid : c.id = d.id) :
    i = j := by
  rw [List.Nodup, List.pairwise_filterMap, List.pairwise_iff_getElem] at hids
  obtain ⟨hilt, hi⟩ := List.getElem?_eq_some_iff.mp hi
  obtain ⟨hjlt, hj⟩ := List.getElem?_eq_some_iff.mp hj
  rcases Nat.lt_trichotomy i j with hlt | heq | hgt
  · exact absurd hid (hids i j hilt hjlt hlt _ (by rw [hi]; rfl) _ (by rw [hj]; rfl))
  · exact heq
  · exact absurd hid.symm (hids j i hjlt hilt hgt _ (by rw [hj]; rfl) _ (by rw [hi]; rfl))

/-- One change more of a row makes an odd number even, and an even one odd. -/
theorem odd_count_cons (changes : List Nat) (other place : Nat) :
    ((other :: changes).count place % 2 == 1) =
      (changes.count place % 2 == 1 ^^ other == place) := by
  rw [List.count_cons]
  rcases Nat.mod_two_eq_zero_or_one (changes.count place) with hcount | hcount <;>
    cases other == place <;> simp [Nat.add_mod, hcount]

/-- A box after these changes of its rows. -/
structure Changed (p : ColumnPicker) (changes : List Nat) (q : ColumnPicker) : Prop where
  rows : q.rows = p.rows
  opening : q.opening = p.opening
  nodup : q.checked.Nodup
  checked : ∀ place c, p.rows[place]? = some (.column c) → c.locked = false →
    q.checked.contains c.id = (p.opening.contains c.id ^^ changes.count place % 2 == 1)

namespace Changed

/-- The blank changes the row under the cursor. -/
theorem toggle
    (hids : (p.rows.filterMap PickerRow.id?).Nodup)
    {k : Key}
    (h : p.Changed changes q)
    (hblank : k.isSpace = true) :
    p.Changed ((q.changed? k).toList ++ changes) q.toggle := by
  unfold changed? ColumnPicker.toggle
  rw [if_pos hblank]
  cases hfree : q.rows[q.cursor]?.bind PickerRow.free? with
  | none =>
      exact h
  | some c =>
      obtain ⟨row, hrow, hc⟩ := Option.bind_eq_some_iff.mp hfree
      obtain ⟨rfl, -⟩ := PickerRow.free?_eq_some_iff.mp hc
      rw [h.rows] at hrow
      refine ⟨h.rows, h.opening, nodup_toggleId h.nodup c.id, ?_⟩
      intro place d hd hlocked
      -- The id that is changed is that of no other row.
      have hplace : (d.id == c.id) = (q.cursor == place) := by
        rw [Bool.eq_iff_iff, beq_iff_eq, beq_iff_eq]
        constructor
        · intro hid
          exact place_eq hids hrow hd hid.symm
        · rintro rfl
          rw [hrow] at hd
          cases hd
          rfl
      rw [contains_toggleId h.nodup, h.checked place d hd hlocked, hplace, Bool.xor_assoc,
        ← odd_count_cons]
      rfl

/-- One key more. -/
theorem key
    (hids : (p.rows.filterMap PickerRow.id?).Nodup)
    (hopening : p.opening.Nodup)
    (h : p.Changed changes q)
    (k : Key) :
    p.Changed (q.changesAfter changes k) (q.key k).view := by
  unfold changesAfter
  cases q.keyChange k with
  | changes hblank hq =>
      have hkey : k.name ≠ "r" := by
        intro hkey
        simp [Key.isSpace, hkey] at hblank
      rw [hq, if_neg (by simpa using hkey)]
      exact h.toggle hids hblank
  | reverts hkey hq =>
      rw [hq, if_pos (by simpa using hkey)]
      refine ⟨h.rows, h.opening, ?_, ?_⟩
      · rw [h.opening]
        exact hopening
      · intro place c _ _
        simp [h.opening]
  | moves hblank hkey cursor offset hq =>
      have hnone : q.changed? k = none := by
        simp [changed?, hblank]
      rw [hq, if_neg (by simpa using hkey), hnone]
      exact ⟨h.rows, h.opening, h.nodup, h.checked⟩

end Changed

/-- Any keys. -/
theorem changed_afterKeys
    (hids : (p.rows.filterMap PickerRow.id?).Nodup)
    (hopening : p.opening.Nodup)
    (h : p.Changed changes q)
    (ks : List Key) :
    p.Changed (q.changesOf changes ks) (q.afterKeys ks) := by
  induction ks generalizing q changes with
  | nil =>
      exact h
  | cons k ks ih =>
      exact ih (h.key hids hopening k)

/-- A box that was just opened has no changes. -/
theorem changed_nil
    (hopening : p.opening.Nodup)
    (hfirst : p.checked = p.opening) :
    p.Changed [] p := by
  refine ⟨rfl, rfl, ?_, ?_⟩
  · rw [hfirst]
    exact hopening
  · intro place c _ _
    simp [hfirst]

/-! ## What is sent -/

/-- The ids of the rows that are chosen after so many changes of each, without the
namespace column. -/
def idsAfter (p : ColumnPicker) (changes : Nat → Nat) : List String :=
  ((p.rows.zipIdx.filter fun e => e.1.isChosen p.opening (changes e.2)).filterMap (·.1.id?)).filter
    (· != namespaceId)

/-- A box sends what is chosen by the number of changes. -/
theorem Changed.visibleIds_eq
    (h : p.Changed changes q) :
    q.visibleIds = p.idsAfter (changes.count ·) := by
  have hrow : ∀ e ∈ p.rows.zipIdx,
      e.1.isChecked q.checked = e.1.isChosen p.opening (changes.count e.2) := by
    rintro ⟨row, place⟩ he
    cases row with
    | heading title =>
        rfl
    | column c =>
        rw [List.mk_mem_zipIdx_iff_getElem?] at he
        cases hlocked : c.locked with
        | true =>
            simp [PickerRow.isChecked, PickerRow.isChosen, hlocked]
        | false =>
            have hchecked := h.checked place c he hlocked
            simp only [PickerRow.isChecked, PickerRow.isChosen, hlocked, Bool.false_or, hchecked]
  have hplaces : p.rows = p.rows.zipIdx.map Prod.fst := (List.zipIdx_map_fst 0 p.rows).symm
  rw [visibleIds, h.rows, idsAfter, ← List.filter_congr hrow]
  conv_lhs => rw [hplaces, List.filter_map, List.filterMap_map]
  rfl

/-- Only whether the number of changes is odd matters. -/
theorem idsAfter_congr
    {some other : Nat → Nat}
    (hodd : ∀ place, some place % 2 = other place % 2) :
    p.idsAfter some = p.idsAfter other := by
  have hrow (e : PickerRow × Nat) :
      e.1.isChosen p.opening (some e.2) = e.1.isChosen p.opening (other e.2) := by
    cases e.1 with
    | heading title =>
        rfl
    | column c =>
        rw [PickerRow.isChosen, PickerRow.isChosen, hodd]
  simp only [idsAfter, hrow]

end ColumnPicker

open ColumnPicker

/-- In all uses of a box: let its rows have different ids, and let it open on different
ids.  After any keys it would send, in the order of the rows and without the namespace
column, the ids of the locked rows, and of the free rows those that were checked at first
and since the last revert were changed an even number of times, or unchecked at first and
changed an odd number of times.  So no keys take a locked row away; keys that change each
row as many times up to an even number send the same, in whatever order they come; and
to revert sends what the box was opened on. -/
theorem chosen_rows_by_parity
    (choice : ColumnChoice) (ks : List Key)
    (hids : ((rowsOf choice).filterMap PickerRow.id?).Nodup)
    (hvisible : choice.visible.Nodup) :
    let first := ofChoice choice
    let q := first.afterKeys ks
    let changes := first.changesOf [] ks
    q.visibleIds = first.idsAfter (changes.count ·) ∧
    (∀ c, .column c ∈ rowsOf choice → c.locked = true → c.id ≠ namespaceId →
      c.id ∈ q.visibleIds) ∧
    (∀ otherwise : List Key,
      (∀ place, (first.changesOf [] otherwise).count place % 2 = changes.count place % 2) →
      (first.afterKeys otherwise).visibleIds = q.visibleIds) ∧
    (q.key ⟨"r"⟩).view.visibleIds = first.visibleIds := by
  intro first q changes
  have hfirst : first.Changed [] first := changed_nil hvisible rfl
  have hafter (ks : List Key) : first.Changed (first.changesOf [] ks) (first.afterKeys ks) :=
    changed_afterKeys hids hvisible hfirst ks
  have hsent := (hafter ks).visibleIds_eq
  refine ⟨hsent, ?_, ?_, ?_⟩
  · intro c hc hlocked hother
    rw [hsent, idsAfter, List.mem_filter, List.mem_filterMap]
    obtain ⟨place, hplace⟩ := List.mem_iff_getElem?.mp hc
    refine ⟨⟨(.column c, place), ?_, rfl⟩, by simpa using hother⟩
    rw [List.mem_filter]
    exact ⟨List.mk_mem_zipIdx_iff_getElem?.mpr hplace, by simp [PickerRow.isChosen, hlocked]⟩
  · intro otherwise hodd
    rw [hsent, (hafter otherwise).visibleIds_eq]
    exact idsAfter_congr hodd
  · have hreverted := (hafter ks).key hids hvisible ⟨"r"⟩
    exact hreverted.visibleIds_eq.trans hfirst.visibleIds_eq.symm

/-- The status is unchecked, a label is checked and all is taken back; then the age is
changed twice, with the images checked in between. -/
theorem chosen_rows_by_parity_workloads :
    let choice : ColumnChoice :=
      { resource := "workloads"
        pool := [{ id := "name", name := "NAME", width := 32 },
          { id := "status", name := "STATUS", width := 18 },
          { id := "age", name := "AGE", width := 6 },
          { id := "images", name := "IMAGES", width := 30, wideOnly := true }]
        labels := ["app"]
        visible := ["namespace", "name", "status", "age"]
        lockNamespace := true }
    let ks : List Key :=
      [⟨" "⟩, ⟨"j"⟩, ⟨"j"⟩, ⟨"j"⟩, ⟨" "⟩, ⟨"r"⟩, ⟨"k"⟩, ⟨"k"⟩, ⟨" "⟩, ⟨"j"⟩, ⟨" "⟩, ⟨"k"⟩, ⟨" "⟩]
    ((rowsOf choice).filterMap PickerRow.id?).Nodup ∧ choice.visible.Nodup ∧
    ((ofChoice choice).afterKeys ks).visibleIds = ["name", "status", "age", "images"] := by
  intro choice ks
  have hids : ((rowsOf choice).filterMap PickerRow.id?).Nodup := by
    decide
  have hvisible : choice.visible.Nodup := by
    decide
  refine ⟨hids, hvisible, ?_⟩
  rw [(chosen_rows_by_parity choice ks hids hvisible).1]
  decide +kernel

end ClusterNav
