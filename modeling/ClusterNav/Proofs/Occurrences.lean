import ClusterNav.Select.Match
import Mathlib.Data.Nat.Find

/-!
# Where a text is found

A text is found where it lies in another one character by character, up to case.  The
search tries the places from the first on, so it finds the first of them, and finds
nothing only when there is none.  Since a place must have room for the whole text, what
is found never goes beyond the end.

**Results.**
* `firstOccurrence?_eq_some_iff`: the search finds the first place, and no other.
* `matchPositions?_eq_some_iff`: the positions that a match covers.
* `isSome_matchPositions?`: a value matches when the text lies in it.
-/

namespace ClusterNav
namespace Select

/-- A text lies in another one from a place on, character by character up to case. -/
structure Aligned (needle hay : List Char) (place : Nat) : Prop where
  fits : place + needle.length ≤ hay.length
  letters : ∀ (i : Nat) (c d : Char),
    needle[i]? = some c → hay[place + i]? = some d → Text.lower c = Text.lower d

/-- The first place from which a text lies in another one. -/
structure FirstAligned (needle hay : List Char) (place : Nat) : Prop where
  aligned : Aligned needle hay place
  first : ∀ earlier < place, ¬ Aligned needle hay earlier

variable {needle hay : List Char} {place : Nat} {c d : Char}

/-! ## Places -/

theorem aligned_nil_iff : Aligned [] hay place ↔ place ≤ hay.length :=
  ⟨fun h => h.fits, fun h => ⟨h, by simp⟩⟩

theorem not_aligned_cons_nil : ¬ Aligned (c :: needle) [] place := by
  intro h
  simpa using h.fits

/-- At the first place the first characters agree, and the others lie there as well. -/
theorem aligned_cons_cons_iff :
    Aligned (c :: needle) (d :: hay) 0 ↔ Text.lower c = Text.lower d ∧ Aligned needle hay 0 := by
  constructor
  · intro h
    refine ⟨h.letters 0 c d rfl rfl, ?_, ?_⟩
    · simpa using h.fits
    · intro i a b ha hb
      exact h.letters (i + 1) a b (by simpa using ha) (by simpa using hb)
  · rintro ⟨hfirst, hrest⟩
    refine ⟨by simpa using hrest.fits, ?_⟩
    intro i a b ha hb
    cases i with
    | zero =>
        obtain rfl : c = a := by simpa using ha
        obtain rfl : d = b := by simpa using hb
        exact hfirst
    | succ i =>
        exact hrest.letters i a b (by simpa using ha) (by simpa using hb)

/-- Every later place is one of the rest. -/
theorem aligned_cons_succ_iff :
    Aligned needle (d :: hay) (place + 1) ↔ Aligned needle hay place := by
  have hplace (i : Nat) : (d :: hay)[place + 1 + i]? = hay[place + i]? := by
    rw [Nat.add_right_comm, List.getElem?_cons_succ]
  constructor
  · intro h
    refine ⟨by have := h.fits; rw [List.length_cons] at this; omega, ?_⟩
    intro i a b ha hb
    exact h.letters i a b ha (by rwa [hplace])
  · intro h
    refine ⟨by have := h.fits; rw [List.length_cons]; omega, ?_⟩
    intro i a b ha hb
    exact h.letters i a b ha (by rwa [hplace] at hb)

/-- What lies in a part of a text lies in the text. -/
theorem Aligned.of_part
    (h : Aligned needle hay place)
    (before after : List Char) :
    Aligned needle (before ++ hay ++ after) (before.length + place) := by
  have hfits := h.fits
  refine ⟨by simp only [List.length_append]; omega, ?_⟩
  intro i a b ha hb
  obtain ⟨hi, -⟩ := List.getElem?_eq_some_iff.mp ha
  have hin : before.length + place + i < (before ++ hay).length := by
    rw [List.length_append]
    omega
  rw [List.getElem?_append_left hin, Nat.add_assoc, List.getElem?_append_right (by omega),
    Nat.add_sub_cancel_left] at hb
  exact h.letters i a b ha hb

/-- Where a text lies, the beginning of the text lies. -/
theorem Aligned.of_longer
    {rest : List Char}
    (h : Aligned (needle ++ rest) hay place) :
    Aligned needle hay place := by
  have hfits := h.fits
  rw [List.length_append] at hfits
  refine ⟨by omega, ?_⟩
  intro i a b ha hb
  obtain ⟨hi, -⟩ := List.getElem?_eq_some_iff.mp ha
  exact h.letters i a b (by rwa [List.getElem?_append_left hi]) hb

/-! ## The search -/

theorem startsWith_iff (needle hay : List Char) :
    startsWith needle hay = true ↔ Aligned needle hay 0 := by
  fun_induction startsWith needle hay with
  | case1 hay =>
      simp [aligned_nil_iff]
  | case2 n ns =>
      simp [not_aligned_cons_nil]
  | case3 n ns d hay ih =>
      rw [Bool.and_eq_true, Text.sameLetter_iff_lower, ih, aligned_cons_cons_iff, eq_comm]

/-- The search finds the first place, counted from where it starts to count. -/
theorem firstOccurrence?_eq_some_iff
    (needle : List Char) (start : Nat) (hay : List Char) (found : Nat) :
    firstOccurrence? needle start hay = some found ↔
      ∃ place, found = start + place ∧ FirstAligned needle hay place := by
  fun_induction firstOccurrence? needle start hay with
  | case1 start hempty =>
      rw [List.isEmpty_iff] at hempty
      subst hempty
      constructor
      · rintro ⟨⟩
        exact ⟨0, rfl, aligned_nil_iff.mpr (Nat.le_refl _), by simp⟩
      · rintro ⟨place, rfl, hplace⟩
        rw [Nat.le_zero.mp (aligned_nil_iff.mp hplace.aligned), Nat.add_zero]
  | case2 start hneedle =>
      cases needle with
      | nil =>
          simp at hneedle
      | cons c needle =>
          simp only [reduceCtorEq, false_iff]
          rintro ⟨place, -, hplace⟩
          exact not_aligned_cons_nil hplace.aligned
  | case3 start d hay hhere =>
      rw [startsWith_iff] at hhere
      constructor
      · rintro ⟨⟩
        exact ⟨0, rfl, hhere, by simp⟩
      · rintro ⟨place, rfl, hplace⟩
        cases place with
        | zero =>
            rfl
        | succ place =>
            exact absurd hhere (hplace.first 0 (Nat.succ_pos place))
  | case4 start d hay hlater ih =>
      rw [startsWith_iff] at hlater
      rw [ih]
      constructor
      · rintro ⟨place, rfl, hplace⟩
        refine ⟨place + 1, by omega, aligned_cons_succ_iff.mpr hplace.aligned, ?_⟩
        intro earlier hearlier halign
        cases earlier with
        | zero =>
            exact hlater halign
        | succ earlier =>
            exact hplace.first earlier (by omega) (aligned_cons_succ_iff.mp halign)
      · rintro ⟨place, rfl, hplace⟩
        cases place with
        | zero =>
            exact absurd hplace.aligned hlater
        | succ place =>
            refine ⟨place, by omega, aligned_cons_succ_iff.mp hplace.aligned, ?_⟩
            intro earlier hearlier halign
            exact hplace.first (earlier + 1) (by omega) (aligned_cons_succ_iff.mpr halign)

/-- Of the places from which a text lies in another one, there is a first. -/
theorem exists_firstAligned_iff :
    (∃ place, FirstAligned needle hay place) ↔ ∃ place, Aligned needle hay place := by
  classical
  constructor
  · rintro ⟨place, hplace⟩
    exact ⟨place, hplace.aligned⟩
  · intro h
    exact ⟨Nat.find h, Nat.find_spec h, fun _ hearlier => Nat.find_min h hearlier⟩

/-! ## The positions of a match -/

/-- A match covers the neighbouring positions from the first place on. -/
theorem matchPositions?_eq_some_iff (value needle : String) (positions : List Nat) :
    matchPositions? value needle = some positions ↔
      ∃ place, FirstAligned needle.toList value.toList place ∧
        positions = List.range' place needle.length := by
  by_cases hempty : needle = ""
  · subst hempty
    have hnothing : matchPositions? value "" = some [] := by
      rfl
    have hstart : FirstAligned "".toList value.toList 0 :=
      ⟨aligned_nil_iff.mpr (Nat.zero_le _), by simp⟩
    rw [hnothing, Option.some.injEq]
    constructor
    · rintro rfl
      exact ⟨0, hstart, rfl⟩
    · rintro ⟨place, -, rfl⟩
      rfl
  · rw [matchPositions?, if_neg (by simpa using hempty), Option.map_eq_some_iff]
    simp only [firstOccurrence?_eq_some_iff, Nat.zero_add]
    constructor
    · rintro ⟨place, ⟨_, rfl, hplace⟩, rfl⟩
      exact ⟨place, hplace, rfl⟩
    · rintro ⟨place, hplace, rfl⟩
      exact ⟨place, ⟨place, rfl, hplace⟩, rfl⟩

/-- A value matches when the text lies in it somewhere. -/
theorem isSome_matchPositions? (value needle : String) :
    (matchPositions? value needle).isSome = true ↔
      ∃ place, Aligned needle.toList value.toList place := by
  rw [Option.isSome_iff_exists, ← exists_firstAligned_iff]
  simp only [matchPositions?_eq_some_iff]
  constructor
  · rintro ⟨-, place, hplace, -⟩
    exact ⟨place, hplace⟩
  · rintro ⟨place, hplace⟩
    exact ⟨_, place, hplace, rfl⟩

end Select
end ClusterNav
