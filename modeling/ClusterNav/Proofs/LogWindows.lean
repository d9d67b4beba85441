import ClusterNav.Cluster.Log

/-!
# Windows on a log

The lines of a log are numbered from the oldest, before a window is laid on them, and
their level and message go by the number.  Counted back from the youngest, a line is
found in the same place whatever the window, and the window only says how far back to
go.

**Results.**
* `Cluster.Log.window_eq`: the numbers in a window, and how many there are.
* `Cluster.Log.current_eq`: the lines in a window, counted back from the youngest.
* `log_windows_nested`: a smaller window shows the last lines of a larger one.
-/

namespace ClusterNav
namespace Cluster
namespace Log

/-- How many lines a window shows: the youngest, and one for each step that the window
goes back. -/
def depth : Option Nat → Nat
  | none => span + 1
  | some minutes => min (minutes / step + 1) (span + 1)

/-- The line of a full log so many steps before its youngest. -/
def lineBack (pod : Pod) (container : String) (i : Nat) : String :=
  line (epoch.later (-(60 * (step * i : Nat)))) (level pod.phase (span - i)) container
    (inTurn (messages pod.workload.tier) (span - i))

/-! ## How far a window goes back -/

section Depth

variable {since : Option Nat} {s t i : Nat}

theorem depth_le (since : Option Nat) : depth since ≤ span + 1 := by
  cases since with
  | none =>
      exact Nat.le_refl _
  | some minutes =>
      exact Nat.min_le_right _ _

theorem depth_pos (since : Option Nat) : 0 < depth since := by
  cases since with
  | none =>
      exact Nat.succ_pos _
  | some minutes =>
      exact Nat.lt_min.mpr ⟨Nat.succ_pos _, Nat.succ_pos _⟩

theorem depth_mono (h : s ≤ t) : depth (some s) ≤ depth (some t) := by
  have hsteps : s / step ≤ t / step := Nat.div_le_div_right h
  simp only [depth]
  omega

theorem minutesAgo_back (h : i ≤ span) : minutesAgo (span - i) = step * i := by
  rw [minutesAgo, Nat.sub_sub_self h, Nat.mul_comm]

/-- A line is young enough for a window when it is not further back than the window goes. -/
theorem young_iff_lt_depth (h : i ≤ span) :
    since.all (minutesAgo (span - i) ≤ ·) = true ↔ i < depth since := by
  rw [minutesAgo_back h]
  cases since with
  | none =>
      simpa [depth] using Nat.lt_succ_of_le h
  | some minutes =>
      have hsteps : step * i ≤ minutes ↔ i ≤ minutes / step := by
        rw [Nat.le_div_iff_mul_le (by decide), Nat.mul_comm]
      rw [Option.all_some, decide_eq_true_eq, hsteps, depth]
      omega

end Depth

/-! ## The lines in a window -/

/-- The first numbers counted down from the last are all numbers, turned round. -/
theorem range_eq_reverse (n : Nat) :
    List.range (n + 1) = ((List.range (n + 1)).map (n - ·)).reverse := by
  symm
  rw [List.reverse_eq_iff, List.range_eq_range', List.reverse_range', ← List.range_eq_range']
  exact List.map_congr_left fun i _ => by omega

theorem filter_range_lt {k n : Nat} (h : k ≤ n) :
    (List.range n).filter (· < k) = List.range k := by
  obtain ⟨m, rfl⟩ := Nat.exists_eq_add_of_le h
  rw [List.range_add, List.filter_append, List.filter_eq_self.mpr, List.filter_eq_nil_iff.mpr,
    List.append_nil]
  · simp
  · simp

/-- The numbers in a window, the youngest last. -/
theorem window_eq (since : Option Nat) :
    window since = ((List.range (depth since)).map (span - ·)).reverse := by
  have hyoung : (List.range (span + 1)).filter
        (fun i => since.all (minutesAgo (span - i) ≤ ·)) =
      (List.range (span + 1)).filter (· < depth since) := by
    refine List.filter_congr fun i hi => ?_
    rw [Bool.eq_iff_iff, young_iff_lt_depth (Nat.le_of_lt_succ (List.mem_range.mp hi)),
      decide_eq_true_eq]
  calc window since
      = ((List.range (span + 1)).map (span - ·)).reverse.filter
          (fun n => since.all (minutesAgo n ≤ ·)) := by
        rw [← range_eq_reverse]
        rfl
    _ = (((List.range (span + 1)).filter
          (fun i => since.all (minutesAgo (span - i) ≤ ·))).map (span - ·)).reverse := by
        rw [List.filter_reverse, List.filter_map]
        rfl
    _ = ((List.range (depth since)).map (span - ·)).reverse := by
        rw [hyoung, filter_range_lt (depth_le since)]

/-- The lines in a window, counted back from the youngest. -/
theorem current_eq (pod : Pod) (container : String) (since : Option Nat) :
    current pod container since =
      ((List.range (depth since)).map (lineBack pod container)).reverse := by
  rw [current, window_eq, List.map_reverse, List.map_map]
  refine congrArg List.reverse (List.map_congr_left fun i hi => ?_)
  have hback : i ≤ span :=
    Nat.le_of_lt_succ (Nat.lt_of_lt_of_le (List.mem_range.mp hi) (depth_le since))
  rw [Function.comp_apply, minutesAgo_back hback, numbered, lineBack]

/-- What goes back less far shows the last lines of what goes back further. -/
theorem current_suffix
    {since wider : Option Nat}
    (h : depth since ≤ depth wider)
    (pod : Pod) (container : String) :
    current pod container since <:+ current pod container wider := by
  have hfirst : List.range (depth since) = (List.range (depth wider)).take (depth since) := by
    rw [List.take_range, Nat.min_eq_left h]
  rw [current_eq, current_eq, List.reverse_suffix, hfirst]
  exact (List.take_prefix _ _).map _

theorem current_ne_nil (pod : Pod) (container : String) (since : Option Nat) :
    current pod container since ≠ [] := by
  rw [← List.length_pos_iff, current_eq, List.length_reverse, List.length_map, List.length_range]
  exact depth_pos since

end Log
end Cluster

open Cluster

/-- Of the current log a smaller window shows the last lines of a larger one, and every
window shows the last lines of the whole log, at least one.  Counted back from the
youngest, a line has the same instant, level and message in every window.  The log of
the instance before the last restart is the same in every window. -/
theorem log_windows_nested
    (pod : Pod) (container : Option String)
    (s t : Nat)
    (hst : s ≤ t) :
    let name := container.getD pod.workload.main.name
    let lines := fun since => Log.ofPod pod { container := container, since := since }
    let ended := fun since =>
      Log.ofPod pod { container := container, previous := true, since := since }
    lines (some s) <:+ lines (some t) ∧
    lines (some t) <:+ lines none ∧
    (∀ since, lines since ≠ []) ∧
    (∀ since, lines since =
      ((List.range (Log.depth since)).map fun i =>
        Log.line (Log.epoch.later (-(60 * (Log.step * i : Nat))))
          (Log.level pod.phase (Log.span - i)) name
          (inTurn (Log.messages pod.workload.tier) (Log.span - i))).reverse) ∧
    (∀ since, ended since = ended none) := by
  intro name lines ended
  refine ⟨?_, ?_, ?_, ?_, fun since => rfl⟩
  · exact Log.current_suffix (Log.depth_mono hst) pod name
  · exact Log.current_suffix (Log.depth_le (some t)) pod name
  · exact fun since => Log.current_ne_nil pod name since
  · exact fun since => Log.current_eq pod name since

/-- An hour shows the last seven of the forty-one lines of six hours. -/
theorem log_windows_nested_hours :
    ∃ pod ∈ podsIn (.named "payments"), pod.name = "payments-api-7c9d5-x2kqp" ∧ 60 ≤ 360 ∧
      Log.ofPod pod { since := some 60 } <:+ Log.ofPod pod { since := some 360 } ∧
      (Log.ofPod pod { since := some 60 }).length = 7 ∧
      (Log.ofPod pod { since := some 360 }).length = 41 := by
  have hfound : ∃ pod ∈ podsIn (.named "payments"), pod.name = "payments-api-7c9d5-x2kqp" := by
    decide +kernel
  obtain ⟨pod, hpod, hname⟩ := hfound
  obtain ⟨hsuffix, -, -, hlines, -⟩ := log_windows_nested pod none 60 360 (by decide)
  have hlength (since : Option Nat) :
      (Log.ofPod pod { since := since }).length = Log.depth since := by
    have hshown := hlines since
    dsimp only at hshown
    rw [hshown, List.length_reverse, List.length_map, List.length_range]
  exact ⟨pod, hpod, hname, by decide, hsuffix, hlength _, hlength _⟩

end ClusterNav
