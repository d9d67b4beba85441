import ClusterNav.Age
import Mathlib.Algebra.BigOperators.Group.Finset.Basic
import Mathlib.Data.List.DropRight
import Mathlib.Data.Nat.Digits.Defs

/-!
# Ages as sums over runs of digits

An age counts its runs of digits, each for the unit that follows it.  The scan stops
every number at the limit, when it reads a run, when it turns it into seconds and when
it adds these.  Stopping early makes no difference: what was stopped once is stopped in
the end, unless it counts nothing.

**Results.**
* `Age.exactSeconds`: the sum over the runs, without a limit.
* `Age.exactSeconds_concat_unit`: what a unit adds to the sum.
* `Age.secondsAfter_eq`: the scan of the rest of an age.
* `ageSeconds_eq_min_sum`: an age counts the sum, stopped once.
-/

namespace ClusterNav
namespace Age

/-! ## The sum without a limit -/

/-- The seconds of the units. -/
def units : List (Char × Nat) :=
  [('s', 1), ('m', 60), ('h', 3600), ('d', 86400), ('y', 31536000)]

/-- The seconds of the unit that a character names, if it names one. -/
def secondsIn (c : Char) : Nat :=
  (units.lookup c).getD 0

/-- The number that digits stand for. -/
def decimal (digits : List Char) : Nat :=
  Nat.ofDigits 10 (digits.reverse.map fun d => d.toNat - '0'.toNat)

/-- The characters from one place up to another. -/
def between (cs : List Char) (start stop : Nat) : List Char :=
  (cs.take stop).drop start

/-- From one place up to another there are digits only, with no digit before them, and
after them a character that is none. -/
def IsRun (cs : List Char) (run : Nat × Nat) : Prop :=
  run.1 < run.2 ∧
  (∀ d ∈ between cs run.1 run.2, d.isDigit = true) ∧
  (∀ c ∈ (cs.take run.1).getLast?, c.isDigit = false) ∧
  ∃ c ∈ cs[run.2]?, c.isDigit = false

instance (cs : List Char) : DecidablePred (IsRun cs) := fun run =>
  inferInstanceAs (Decidable (run.1 < run.2 ∧ _ ∧ _ ∧ _))

/-- The runs of digits of a text that a character follows. -/
def runs (cs : List Char) : Finset (Nat × Nat) :=
  (Finset.range cs.length ×ˢ Finset.range cs.length).filter (IsRun cs)

/-- The seconds of a run: its number, in the unit of the character after it. -/
def runSeconds (cs : List Char) (run : Nat × Nat) : Nat :=
  decimal (between cs run.1 run.2) * cs[run.2]?.elim 0 secondsIn

/-- The seconds of all runs. -/
def exactSeconds (cs : List Char) : Nat :=
  ∑ run ∈ runs cs, runSeconds cs run

/-- The digits at the end of a text. -/
def openDigits (cs : List Char) : List Char :=
  cs.rtakeWhile Char.isDigit

/-- Where the digits at the end of a text begin. -/
def openStart (cs : List Char) : Nat :=
  (cs.rdropWhile Char.isDigit).length

/-! ## Runs of a longer text -/

section Runs

variable {cs front : List Char} {c : Char} {run : Nat × Nat} {start : Nat}

theorem lt_length_of_isRun (h : IsRun cs run) : run.2 < cs.length := by
  obtain ⟨-, -, -, c, hc, -⟩ := h
  exact (List.getElem?_eq_some_iff.mp hc).1

theorem mem_runs_iff : run ∈ runs cs ↔ IsRun cs run := by
  rw [runs, Finset.mem_filter, Finset.mem_product, Finset.mem_range, Finset.mem_range]
  constructor
  · exact fun h => h.2
  · intro h
    have hlt := lt_length_of_isRun h
    exact ⟨⟨Nat.lt_trans h.1 hlt, hlt⟩, h⟩

theorem between_concat
    {stop : Nat}
    (h : stop ≤ cs.length) :
    between (cs ++ [c]) start stop = between cs start stop := by
  rw [between, List.take_append_of_le_length h, between]

/-- One more character changes nothing about the runs before it. -/
theorem isRun_concat_iff
    (h : run.2 < cs.length) :
    IsRun (cs ++ [c]) run ↔ IsRun cs run := by
  refine and_congr_right fun hlt => ?_
  rw [between_concat (Nat.le_of_lt h), List.getElem?_append_left h,
    List.take_append_of_le_length (Nat.le_of_lt (Nat.lt_trans hlt h))]

/-- The digits after which there is no other character are those at the end. -/
theorem openDigits_append
    {digits : List Char}
    (hdigits : ∀ d ∈ digits, d.isDigit = true)
    (hfront : ∀ c ∈ front.getLast?, c.isDigit = false) :
    openDigits (front ++ digits) = digits := by
  induction digits using List.reverseRecOn with
  | nil =>
      rw [List.append_nil, openDigits, List.rtakeWhile_eq_nil_iff]
      intro hne
      rw [hfront _ (List.getLast?_eq_some_getLast hne)]
      exact Bool.false_ne_true
  | append_singleton rest d ih =>
      obtain ⟨hrest, hd⟩ := List.forall_mem_append.mp hdigits
      rw [← List.append_assoc, openDigits,
        List.rtakeWhile_concat_pos _ _ _ (hd d (List.mem_singleton_self d))]
      exact congrArg (· ++ [d]) (ih hrest)

theorem rdropWhile_append_openDigits (cs : List Char) :
    cs.rdropWhile Char.isDigit ++ openDigits cs = cs :=
  List.rdropWhile_append_rtakeWhile

theorem take_openStart (cs : List Char) :
    cs.take (openStart cs) = cs.rdropWhile Char.isDigit :=
  calc cs.take (openStart cs)
      = (cs.rdropWhile Char.isDigit ++ openDigits cs).take (openStart cs) := by
        rw [rdropWhile_append_openDigits]
    _ = cs.rdropWhile Char.isDigit := List.take_left

theorem drop_openStart (cs : List Char) : cs.drop (openStart cs) = openDigits cs :=
  calc cs.drop (openStart cs)
      = (cs.rdropWhile Char.isDigit ++ openDigits cs).drop (openStart cs) := by
        rw [rdropWhile_append_openDigits]
    _ = openDigits cs := List.drop_left

theorem openStart_le (cs : List Char) : openStart cs ≤ cs.length :=
  (List.rdropWhile_prefix Char.isDigit cs).length_le

theorem openStart_lt_iff : openStart cs < cs.length ↔ openDigits cs ≠ [] := by
  rw [← drop_openStart, ← List.length_pos_iff, List.length_drop]
  omega

/-- The digits at the end begin where only digits follow and none stands before. -/
theorem eq_openStart_iff
    (h : start ≤ cs.length) :
    start = openStart cs ↔
      (∀ d ∈ cs.drop start, d.isDigit = true) ∧
        ∀ c ∈ (cs.take start).getLast?, c.isDigit = false := by
  constructor
  · rintro rfl
    rw [drop_openStart, take_openStart]
    refine ⟨fun d hd => List.mem_rtakeWhile_imp hd, fun d hd => ?_⟩
    obtain ⟨hfront, rfl⟩ := List.mem_getLast?_eq_getLast hd
    exact Bool.eq_false_iff.mpr (List.rdropWhile_last_not Char.isDigit cs hfront)
  · rintro ⟨hdigits, hbefore⟩
    have hopen := openDigits_append hdigits hbefore
    rw [List.take_append_drop] at hopen
    have hsame : cs.length - openStart cs = cs.length - start := by
      rw [← List.length_drop, ← List.length_drop, drop_openStart, hopen]
    have hle := openStart_le cs
    omega

/-- A character ends a run when it is no digit and there are digits at the end of the
text before it. -/
theorem isRun_concat_length_iff :
    IsRun (cs ++ [c]) (start, cs.length) ↔
      c.isDigit = false ∧ openDigits cs ≠ [] ∧ start = openStart cs := by
  have hrun : IsRun (cs ++ [c]) (start, cs.length) ↔
      start < cs.length ∧ start = openStart cs ∧ c.isDigit = false := by
    refine and_congr_right fun (hlt : start < cs.length) => ?_
    have hle : start ≤ cs.length := Nat.le_of_lt hlt
    rw [between_concat (Nat.le_refl _), between, List.take_length,
      List.take_append_of_le_length hle, List.getElem?_concat_length, ← and_assoc,
      ← eq_openStart_iff hle]
    simp
  rw [hrun, ← openStart_lt_iff]
  constructor
  · rintro ⟨hlt, rfl, hunit⟩
    exact ⟨hunit, hlt, rfl⟩
  · rintro ⟨hunit, hlt, rfl⟩
    exact ⟨hlt, rfl, hunit⟩

/-- The runs of a longer text are those before, and the one that its last character may
have ended. -/
theorem mem_runs_concat_iff :
    run ∈ runs (cs ++ [c]) ↔
      run ∈ runs cs ∨
        c.isDigit = false ∧ openDigits cs ≠ [] ∧ run = (openStart cs, cs.length) := by
  rw [mem_runs_iff, mem_runs_iff]
  constructor
  · intro h
    have hlt := lt_length_of_isRun h
    rw [List.length_append, List.length_singleton] at hlt
    rcases Nat.lt_or_eq_of_le (Nat.le_of_lt_succ hlt) with hinside | hlast
    · exact Or.inl ((isRun_concat_iff hinside).mp h)
    · obtain ⟨start, stop⟩ := run
      obtain rfl : stop = cs.length := hlast
      obtain ⟨hunit, hne, rfl⟩ := isRun_concat_length_iff.mp h
      exact Or.inr ⟨hunit, hne, rfl⟩
  · rintro (h | ⟨hunit, hne, rfl⟩)
    · exact (isRun_concat_iff (lt_length_of_isRun h)).mpr h
    · exact isRun_concat_length_iff.mpr ⟨hunit, hne, rfl⟩

end Runs

/-! ## What a character adds to the sum -/

section Sum

variable {cs : List Char} {c : Char}

theorem runSeconds_concat
    {run : Nat × Nat}
    (h : run ∈ runs cs) :
    runSeconds (cs ++ [c]) run = runSeconds cs run := by
  have hlt := lt_length_of_isRun (mem_runs_iff.mp h)
  rw [runSeconds, between_concat (Nat.le_of_lt hlt), List.getElem?_append_left hlt, runSeconds]

/-- With the same runs the sum is the same. -/
theorem exactSeconds_congr
    (h : runs (cs ++ [c]) = runs cs) :
    exactSeconds (cs ++ [c]) = exactSeconds cs := by
  rw [exactSeconds, h]
  exact Finset.sum_congr rfl fun run hrun => runSeconds_concat hrun

/-- A digit adds nothing before its run has ended. -/
theorem exactSeconds_concat_digit
    (h : c.isDigit = true) :
    exactSeconds (cs ++ [c]) = exactSeconds cs := by
  apply exactSeconds_congr
  ext run
  rw [mem_runs_concat_iff, h]
  simp

/-- Another character adds the digits before it, in its unit. -/
theorem exactSeconds_concat_unit
    (h : c.isDigit = false) :
    exactSeconds (cs ++ [c]) = exactSeconds cs + decimal (openDigits cs) * secondsIn c := by
  rcases eq_or_ne (openDigits cs) [] with hnone | hne
  · have hsame : runs (cs ++ [c]) = runs cs := by
      ext run
      rw [mem_runs_concat_iff, hnone]
      simp
    rw [exactSeconds_congr hsame, hnone]
    simp [decimal]
  · have hmore : runs (cs ++ [c]) = insert (openStart cs, cs.length) (runs cs) := by
      ext run
      rw [mem_runs_concat_iff, Finset.mem_insert]
      simp [h, hne, or_comm]
    have hnew : (openStart cs, cs.length) ∉ runs cs := by
      intro hmem
      exact Nat.lt_irrefl _ (lt_length_of_isRun (mem_runs_iff.mp hmem))
    have hlast : runSeconds (cs ++ [c]) (openStart cs, cs.length) =
        decimal (openDigits cs) * secondsIn c := by
      rw [runSeconds, between_concat (Nat.le_refl _), between, List.take_length, drop_openStart,
        List.getElem?_concat_length, Option.elim_some]
    rw [exactSeconds, hmore, Finset.sum_insert hnew, hlast, Nat.add_comm]
    congr 1
    exact Finset.sum_congr rfl fun run hrun => runSeconds_concat hrun

/-- The digits at the end of a text count nothing. -/
theorem exactSeconds_rdropWhile (cs : List Char) :
    exactSeconds (cs.rdropWhile Char.isDigit) = exactSeconds cs := by
  induction cs using List.reverseRecOn with
  | nil =>
      rfl
  | append_singleton rest c ih =>
      rw [List.rdropWhile_concat]
      split
      · rename_i hdigit
        rw [ih, exactSeconds_concat_digit hdigit]
      · rfl

end Sum

/-! ## Stopping at the limit -/

theorem saturate_add (a b : Nat) : saturate (saturate a + saturate b) = saturate (a + b) := by
  unfold saturate
  omega

/-- A number that was stopped is stopped again in any unit, unless the unit counts
nothing. -/
theorem saturate_mul (value unit : Nat) :
    saturate (saturate value * unit) = saturate (value * unit) := by
  rcases Nat.eq_zero_or_pos unit with rfl | hunit
  · rw [Nat.mul_zero, Nat.mul_zero]
  · rcases Nat.le_total value limit with hle | hge
    · have hsame : saturate value = value := Nat.min_eq_left hle
      rw [hsame]
    · have hvalue : saturate value = limit := Nat.min_eq_right hge
      have hstopped : limit ≤ limit * unit := Nat.le_mul_of_pos_right limit hunit
      have hlarger : limit * unit ≤ value * unit := Nat.mul_le_mul_right unit hge
      rw [hvalue, saturate, saturate, Nat.min_eq_right hstopped,
        Nat.min_eq_right (Nat.le_trans hstopped hlarger)]

theorem unit_eq (c : Char) : unit c = secondsIn c := by
  unfold unit
  split
  · rfl
  · rfl
  · rfl
  · rfl
  · rfl
  · rename_i hs hm hh hd hy
    have hnone : units.lookup c = none := by
      rw [List.lookup_eq_none_iff]
      simpa [units] using ⟨hs, hm, hh, hd, hy⟩
    rw [secondsIn, hnone, Option.getD_none]

theorem runValue_eq (run : List Char) : runValue run = decimal run.reverse := by
  rw [decimal, List.reverse_reverse]
  induction run with
  | nil =>
      rfl
  | cons d rest ih =>
      rw [runValue, ih, List.map_cons, Nat.ofDigits_cons, Nat.add_comm]
      rfl

/-- Scanning the rest of an age, with the sum of what was read, stopped, and with the
digits at the end of it. -/
theorem secondsAfter_eq (front rest : List Char) :
    secondsAfter (saturate (exactSeconds front)) (openDigits front).reverse rest =
      saturate (exactSeconds (front ++ rest)) := by
  induction rest generalizing front with
  | nil =>
      rw [secondsAfter, List.append_nil]
  | cons c rest ih =>
      have hnext := ih (front ++ [c])
      rw [List.append_assoc, List.singleton_append] at hnext
      rw [secondsAfter, ← hnext]
      split
      · rename_i hdigit
        rw [exactSeconds_concat_digit hdigit, openDigits, openDigits,
          List.rtakeWhile_concat_pos _ _ _ hdigit, List.reverse_concat]
      · rename_i hunit
        have hopen : openDigits (front ++ [c]) = [] := List.rtakeWhile_concat_neg _ _ _ hunit
        dsimp only
        rw [hopen, exactSeconds_concat_unit (Bool.eq_false_iff.mpr hunit), runValue_eq,
          List.reverse_reverse, saturate_mul, saturate_add, unit_eq, List.reverse_nil]

end Age

/-- An age counts the runs of digits that a character follows, each with its number in
the unit of this character, and is stopped once, at the largest number of 64 bits.
Digits at the end count nothing. -/
theorem ageSeconds_eq_min_sum (age : String) :
    let cs := Text.trimChars age.toList
    ageSeconds age =
      min
        (∑ run ∈ Age.runs cs,
          Age.decimal (Age.between cs run.1 run.2) * cs[run.2]?.elim 0 Age.secondsIn)
        (2 ^ 64 - 1) ∧
    ageSeconds age = min (Age.exactSeconds (cs.rdropWhile Char.isDigit)) (2 ^ 64 - 1) := by
  intro cs
  have hsum : ageSeconds age = Age.saturate (Age.exactSeconds cs) :=
    Age.secondsAfter_eq [] cs
  constructor
  · exact hsum
  · rw [Age.exactSeconds_rdropWhile]
    exact hsum

end ClusterNav
