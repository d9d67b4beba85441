import ClusterNav.Proofs.FilterOperations
import ClusterNav.Proofs.Occurrences
import Mathlib.Data.List.Lattice

/-!
# What a filter shows

A filtered list shows the values in which its filter lies, each with the positions of the
first place where it lies.  Which these are is settled by the values and the text of the
filter alone, so all ways to the same text lead to the same rows.  Another character can
only take rows away: where the longer text lies, the shorter one lies as well, though
perhaps also earlier.

**Results.**
* `FilterList.Paged.visible_of_filter_empty`: without a filter all values are shown.
* `FilterList.Paged.sublist_pushChar`: one more character takes rows away.
* `FilterList.filter_performAll_pushes`, `FilterList.filter_performAll_pops`: the text of
  the filter while it is typed and taken back.
* `filter_shows_matches`: what is shown under a filter, after any operations.
* `rows_follow_filter_text`: the rows of a text, on all ways to it.
-/

namespace ClusterNav
namespace Select
namespace FilterList

variable {values : List String} {n : Nat} {l : FilterList}

/-! ## The rows of a text -/

/-- A longer filter matches no more values. -/
theorem sublist_matchesFrom
    {filter longer : String}
    (hlonger : ∀ value, (matchPositions? value longer).isSome = true →
      (matchPositions? value filter).isSome = true)
    (start : Nat) (values : List String) :
    ((matchesFrom longer start values).map (·.index)).Sublist
      ((matchesFrom filter start values).map (·.index)) := by
  induction values generalizing start with
  | nil =>
      exact List.Sublist.refl []
  | cons value rest ih =>
      have hvalue := hlonger value
      rw [matchesFrom, matchesFrom]
      cases hmatch : matchPositions? value filter with
      | none =>
          rw [hmatch, Option.isSome_none, Bool.false_eq_true, imp_false,
            Option.not_isSome_iff_eq_none] at hvalue
          rw [hvalue]
          exact ih (start + 1)
      | some positions =>
          cases matchPositions? value longer with
          | none =>
              exact (ih (start + 1)).cons start
          | some found =>
              exact (ih (start + 1)).cons_cons start

/-- Where a text with one more character lies, the text lies. -/
theorem isSome_of_push
    {value filter : String} {c : Char}
    (h : (matchPositions? value (filter.push c)).isSome = true) :
    (matchPositions? value filter).isSome = true := by
  rw [isSome_matchPositions?] at h ⊢
  obtain ⟨place, hplace⟩ := h
  rw [String.toList_push] at hplace
  exact ⟨place, hplace.of_longer⟩

namespace Paged

/-- One more character can only take rows away. -/
theorem sublist_pushChar
    (h : l.Paged values n)
    (c : Char) :
    ((l.pushChar c).visible.map (·.index)).Sublist (l.visible.map (·.index)) := by
  rw [(h.pushChar c).visible_eq, h.visible_eq]
  exact sublist_matchesFrom (fun _ => isSome_of_push) 0 values

/-- Without a filter all values are shown, and nothing of them is found. -/
theorem visible_of_filter_empty
    (h : l.Paged values n)
    (hfilter : l.filter = "") :
    l.visible = values.zipIdx.map fun e => ⟨e.2, []⟩ := by
  have hmatches : ∀ value, matchPositions? value "" = some [] := by
    intro value
    rfl
  rw [h.visible_eq, matchesFrom_eq_filterMap, hfilter]
  simp only [hmatches, Option.map_some]
  exact congrFun List.filterMap_eq_map values.zipIdx

end Paged

/-! ## The text of a filter -/

theorem filter_popChar (l : FilterList) :
    l.popChar.filter = String.ofList l.filter.toList.dropLast := by
  unfold popChar
  split
  · rename_i hempty
    rw [String.isEmpty_iff] at hempty
    rw [hempty]
    rfl
  · rfl

theorem filter_performAll_pushes (l : FilterList) (typed : List Char) :
    (l.performAll (typed.map .pushChar)).filter = l.filter ++ String.ofList typed := by
  induction typed generalizing l with
  | nil =>
      exact (String.append_empty).symm
  | cons c rest ih =>
      have hpush : (l.pushChar c).filter = l.filter.push c := by
        rfl
      rw [List.map_cons, performAll, List.foldl_cons]
      show ((l.pushChar c).performAll (rest.map .pushChar)).filter = _
      rw [ih, hpush, String.ofList_cons, ← String.append_assoc, String.append_singleton]

/-- To take characters away leaves the beginning of the text. -/
theorem filter_performAll_pops (l : FilterList) (count : Nat) :
    (l.performAll (List.replicate count .popChar)).filter.toList =
      l.filter.toList.take (l.filter.toList.length - count) := by
  induction count generalizing l with
  | zero =>
      exact (List.take_length).symm
  | succ count ih =>
      rw [List.replicate_succ, performAll, List.foldl_cons]
      show (l.popChar.performAll (List.replicate count .popChar)).filter.toList = _
      rw [ih, filter_popChar, String.toList_ofList, List.length_dropLast, List.dropLast_eq_take,
        List.take_take]
      congr 1
      omega

/-- To type or to take back leaves the values as they are. -/
theorem valuesAfter_edits
    {edits : List Operation}
    (hedits : ∀ edit ∈ edits, (∃ c, edit = .pushChar c) ∨ edit = .popChar)
    (values : List String) :
    edits.foldl Operation.valuesAfter values = values := by
  induction edits with
  | nil =>
      rfl
  | cons edit rest ih =>
      have hrest := ih fun e he => hedits e (List.mem_cons_of_mem _ he)
      rcases hedits edit List.mem_cons_self with ⟨c, rfl⟩ | rfl
      · exact hrest
      · exact hrest

end FilterList

open FilterList

/-- A value matches a text exactly when the text lies in it somewhere, character by
character up to case.  The match then covers the neighbouring positions from the first
such place on, all within the value, and no position when the text is empty.  After any
operations on a list of values, its rows are the values set last that match its filter, in
their order, each with its index and with what is found; so without a filter all values
are shown. -/
theorem filter_shows_matches
    (value needle : String) (values : List String) (operations : List Operation) :
    ((matchPositions? value needle).isSome = true ↔
      ∃ place, Aligned needle.toList value.toList place) ∧
    (∀ positions, matchPositions? value needle = some positions ↔
      ∃ place, FirstAligned needle.toList value.toList place ∧
        positions = List.range' place needle.length) ∧
    (∀ positions, matchPositions? value needle = some positions →
      ∀ position ∈ positions, position < value.length) ∧
    matchPositions? value "" = some [] ∧
    let l := (ofValues values).performAll operations
    l.values = operations.foldl Operation.valuesAfter values ∧
    l.visible =
      (l.values.zipIdx.filterMap fun e =>
        (matchPositions? e.1 l.filter).map (FilterMatch.mk e.2)) ∧
    (l.filter = "" → l.visible = l.values.zipIdx.map fun e => ⟨e.2, []⟩) := by
  have hpaged := paged_performAll values operations
  refine ⟨isSome_matchPositions? value needle, matchPositions?_eq_some_iff value needle, ?_, rfl,
    hpaged.values_eq, ?_, ?_⟩
  · intro positions hpositions position hmem
    obtain ⟨place, hplace, rfl⟩ := (matchPositions?_eq_some_iff _ _ _).mp hpositions
    have hfits := hplace.aligned.fits
    rw [String.length_toList, String.length_toList] at hfits
    rw [List.mem_range'_1] at hmem
    omega
  · rw [hpaged.visible_eq, hpaged.values_eq]
    exact matchesFrom_eq_filterMap _ 0 _
  · intro hfilter
    rw [hpaged.values_eq]
    exact hpaged.visible_of_filter_empty hfilter

/-- After any operations on a list of values: each character typed into the filter can
only take rows away.  Characters that are typed stand behind the text of the filter, and
to take as many away restores the text and the rows.  In between the list shows the same
rows as every other list that has, by whatever operations, come to the same values and the
same text. -/
theorem rows_follow_filter_text
    (values : List String) (operations : List Operation) (typed : String) :
    let l := (ofValues values).performAll operations
    let longer := l.performAll (typed.toList.map .pushChar)
    let restored := longer.performAll (List.replicate typed.length .popChar)
    (∀ c, ((l.pushChar c).visible.map (·.index)).Sublist (l.visible.map (·.index))) ∧
    longer.filter = l.filter ++ typed ∧
    restored.filter = l.filter ∧ restored.visible = l.visible ∧
    ∀ (others : List String) (otherwise : List Operation),
      let m := (ofValues others).performAll otherwise
      m.values = l.values → m.filter = l.filter ++ typed → m.visible = longer.visible := by
  intro l longer restored
  obtain ⟨n, hl⟩ : ∃ n, l.Paged l.values n := by
    have hpaged := paged_performAll values operations
    rw [← hpaged.values_eq] at hpaged
    exact ⟨_, hpaged⟩
  obtain ⟨n', hlonger⟩ : ∃ n, longer.Paged l.values n := by
    have hpaged := hl.performAll (typed.toList.map .pushChar)
    rw [valuesAfter_edits (by simp)] at hpaged
    exact ⟨_, hpaged⟩
  obtain ⟨n'', hrestored⟩ : ∃ n, restored.Paged l.values n := by
    have hpaged := hlonger.performAll (List.replicate typed.length .popChar)
    rw [valuesAfter_edits (by simp)] at hpaged
    exact ⟨_, hpaged⟩
  have htyped : longer.filter = l.filter ++ typed := by
    have hpushes := l.filter_performAll_pushes typed.toList
    rwa [String.ofList_toList] at hpushes
  have htaken : restored.filter = l.filter := by
    have hlength : typed.toList.length = typed.length := String.length_toList
    have hpops := longer.filter_performAll_pops typed.length
    rw [htyped, String.toList_append, List.length_append, hlength, Nat.add_sub_cancel,
      List.take_left, String.toList_inj] at hpops
    exact hpops
  refine ⟨hl.sublist_pushChar, htyped, htaken, ?_, ?_⟩
  · rw [hrestored.visible_eq, hl.visible_eq, htaken]
  · intro others otherwise m hvalues hfilter
    have hm := paged_performAll others otherwise
    rw [hm.visible_eq, ← hm.values_eq, hlonger.visible_eq, htyped, ← hfilter, ← hvalues]

end Select
end ClusterNav
