import ClusterNav.Proofs.ScopedItems
import Mathlib.Data.List.Nodup

/-!
# Pods and the workloads they belong to

A pod is called after its workload: by the name, a hyphen and a suffix.  No workload is
called after another one of its namespace, so of all names there is just one that can
begin the name of a pod.  Hence the way from a workload to its pods and the way back,
from the names of the pods in a namespace, agree.

**Results.**
* `Cluster.podOwner?_named`: whatever the suffix, the name of a pod leads to its workload.
* `Cluster.filter_owned_podsIn`: the pods of a namespace that belong to a workload.
* `Cluster.pod?_eq_some_iff`: which pod a namespace and a name stand for.
* `pods_found_either_way`: the pods of an item by its workload and by their owners.
-/

namespace ClusterNav
namespace Cluster

/-! ## Names of workloads -/

section Names

variable {w other : Workload} {ns name : String}

theorem isNamedAfter_iff {object owner : String} :
    isNamedAfter object owner = true ↔ owner.toList ++ ['-'] <+: object.toList :=
  List.isPrefixOf_iff_prefix

theorem nodup_keys : (workloads.map fun w => (w.ns, w.name)).Nodup := by
  decide

/-- A namespace and a name belong to one workload at most. -/
theorem eq_of_ns_of_name
    (hw : w ∈ workloads) (hother : other ∈ workloads)
    (hns : other.ns = w.ns) (hname : other.name = w.name) :
    other = w :=
  List.inj_on_of_nodup_map nodup_keys hother hw (Prod.ext hns hname)

/-- No workload is called after another one of its namespace. -/
theorem not_isNamedAfter
    (hw : w ∈ workloads) (hother : other ∈ workloads)
    (hns : other.ns = w.ns) :
    ¬ isNamedAfter other.name w.name = true := by
  have htable : ∀ w ∈ workloads, ∀ other ∈ workloads, other.ns = w.ns →
      ¬ isNamedAfter other.name w.name = true := by
    decide +kernel
  exact htable w hw other hother hns

/-- What is called after a workload is called after no other one of the namespace. -/
theorem eq_of_isNamedAfter
    (hw : w ∈ workloads) (hother : other ∈ workloads)
    (hns : other.ns = w.ns)
    {object : String}
    (hobject : isNamedAfter object w.name = true)
    (hobject' : isNamedAfter object other.name = true) :
    other = w := by
  rw [isNamedAfter_iff] at hobject hobject'
  -- of two beginnings of one name, one begins the other
  rcases List.prefix_or_prefix_of_prefix hobject' hobject with hbegins | hbegins
  · rcases List.prefix_concat_iff.mp hbegins with hsame | hshorter
    · exact eq_of_ns_of_name hw hother hns (String.toList_inj.mp (List.append_cancel_right hsame))
    · exact absurd (isNamedAfter_iff.mpr hshorter) (not_isNamedAfter hother hw hns.symm)
  · rcases List.prefix_concat_iff.mp hbegins with hsame | hshorter
    · exact eq_of_ns_of_name hw hother hns
        (String.toList_inj.mp (List.append_cancel_right hsame.symm))
    · exact absurd (isNamedAfter_iff.mpr hshorter) (not_isNamedAfter hw hother hns)

/-- A test that one workload passes and no other. -/
theorem filter_workloads_eq_singleton
    (hw : w ∈ workloads)
    {keep : Workload → Bool}
    (hkeep : ∀ other ∈ workloads, keep other = true ↔ other = w) :
    workloads.filter keep = [w] := by
  have hnodup : workloads.Nodup := nodup_keys.of_map
  have hsame : workloads.filter keep = workloads.filter (· == w) := by
    refine List.filter_congr fun other hother => ?_
    rw [Bool.eq_iff_iff, hkeep other hother, beq_iff_eq]
  rw [hsame, List.filter_beq, List.count_eq_one_of_mem hnodup hw]
  rfl

/-- A namespace and a name find what passes both tests. -/
theorem toList_workload? (ns name : String) :
    (workload? ns name).toList = workloads.filter fun w => w.ns == ns && w.name == name := by
  cases hfound : workload? ns name with
  | none =>
      symm
      rw [Option.toList_none, List.filter_eq_nil_iff]
      exact List.find?_eq_none.mp hfound
  | some w =>
      have hw : w ∈ workloads := List.mem_of_find?_eq_some hfound
      have hkey : w.ns = ns ∧ w.name = name := by
        simpa using List.find?_some hfound
      symm
      refine filter_workloads_eq_singleton hw fun other hother => ?_
      rw [Bool.and_eq_true, beq_iff_eq, beq_iff_eq, ← hkey.1, ← hkey.2]
      constructor
      · rintro ⟨hns, hname⟩
        exact eq_of_ns_of_name hw hother hns hname
      · rintro rfl
        exact ⟨rfl, rfl⟩

theorem workload?_eq_some_iff :
    workload? ns name = some w ↔ w ∈ workloads ∧ w.ns = ns ∧ w.name = name := by
  rw [← Option.mem_toList, toList_workload?, List.mem_filter, Bool.and_eq_true, beq_iff_eq,
    beq_iff_eq]

end Names

/-! ## Owners of pods -/

section Owners

variable {w : Workload} {p : Pod} {ns : String}

theorem isNamedAfter_named (name suffix : String) :
    isNamedAfter (name ++ "-" ++ suffix) name = true := by
  rw [isNamedAfter_iff, String.toList_append, String.toList_append]
  exact List.prefix_append _ _

/-- Whatever the suffix, the name of a pod leads to its workload. -/
theorem podOwner?_named
    (hw : w ∈ workloads)
    (suffix : String) :
    podOwner? w.ns (w.name ++ "-" ++ suffix) = some w := by
  have hnamed := isNamedAfter_named w.name suffix
  have hone : (workloads.filter fun other =>
      other.ns == w.ns && isNamedAfter (w.name ++ "-" ++ suffix) other.name) = [w] := by
    refine filter_workloads_eq_singleton hw fun other hother => ?_
    rw [Bool.and_eq_true, beq_iff_eq]
    constructor
    · rintro ⟨hns, hother'⟩
      exact eq_of_isNamedAfter hw hother hns hnamed hother'
    · rintro rfl
      exact ⟨rfl, hnamed⟩
  rw [podOwner?, hone]
  rfl

/-- The longest of some names is one of them. -/
theorem foldl_longerNamed_mem (w : Workload) (rest : List Workload) :
    rest.foldl longerNamed w ∈ w :: rest := by
  induction rest generalizing w with
  | nil =>
      exact List.mem_singleton_self w
  | cons next rest ih =>
      rw [List.foldl_cons]
      rcases List.mem_cons.mp (ih (longerNamed w next)) with hlonger | hrest
      · rw [hlonger, longerNamed]
        split
        · exact List.mem_cons_self
        · exact List.mem_cons_of_mem _ List.mem_cons_self
      · exact List.mem_cons_of_mem _ (List.mem_cons_of_mem _ hrest)

/-- The owner of a pod is a workload of the namespace. -/
theorem mem_of_podOwner?
    {name : String}
    (h : podOwner? ns name = some w) :
    w ∈ workloads ∧ w.ns = ns := by
  unfold podOwner? at h
  split at h
  · cases h
  · rename_i first rest hcandidates
    have hw : w ∈ first :: rest := by
      rw [← Option.some.inj h]
      exact foldl_longerNamed_mem first rest
    rw [← hcandidates, List.mem_filter, Bool.and_eq_true, beq_iff_eq] at hw
    exact ⟨hw.1, hw.2.1⟩

/-! ## Pods of a namespace -/

theorem mem_podsIn_named_iff :
    p ∈ podsIn (.named ns) ↔ ∃ w ∈ workloads, w.ns = ns ∧ p ∈ podsOf w := by
  simp only [podsIn, workloadsIn, List.mem_flatMap, List.mem_filter, NamespaceScope.holds_named,
    beq_iff_eq, and_assoc, @eq_comm _ ns]

theorem workload_of_mem_podsOf
    (h : p ∈ podsOf w) :
    p.workload = w := by
  obtain ⟨i, -, rfl⟩ := List.mem_map.mp h
  rfl

theorem podOwner?_of_mem_podsOf
    (hw : w ∈ workloads)
    (h : p ∈ podsOf w) :
    podOwner? w.ns p.name = some w := by
  obtain rfl := workload_of_mem_podsOf h
  exact podOwner?_named hw p.suffix

/-- All pods of a workload pass a test of their workload, or none does. -/
theorem filter_podsOf (keep : Workload → Bool) (w : Workload) :
    (podsOf w).filter (fun p => keep p.workload) = if keep w then podsOf w else [] := by
  split
  · rename_i hkeep
    rw [List.filter_eq_self]
    intro p hp
    rw [workload_of_mem_podsOf hp, hkeep]
  · rename_i hnot
    rw [List.filter_eq_nil_iff]
    intro p hp
    rwa [workload_of_mem_podsOf hp]

/-- The pods of some workloads that pass a test are the pods of the workloads that pass it. -/
theorem filter_flatMap_podsOf (keep : Workload → Bool) (table : List Workload) :
    (table.flatMap podsOf).filter (fun p => keep p.workload) =
      (table.filter keep).flatMap podsOf := by
  rw [List.filter_flatMap]
  induction table with
  | nil =>
      rfl
  | cons w rest ih =>
      rw [List.flatMap_cons, ih, filter_podsOf, List.filter_cons]
      split
      · rw [List.flatMap_cons]
      · rw [List.nil_append]

/-- The pods of a namespace whose owner has a name are those of the workload of this name. -/
theorem filter_owned_podsIn (ns name : String) :
    (podsIn (.named ns)).filter (fun p => (podOwner? p.ns p.name).any (·.name == name)) =
      (workload? ns name).toList.flatMap podsOf := by
  have howned : (podsIn (.named ns)).filter
        (fun p => (podOwner? p.ns p.name).any (·.name == name)) =
      (podsIn (.named ns)).filter (fun p => p.workload.name == name) := by
    refine List.filter_congr fun p hp => ?_
    obtain ⟨w, hw, -, hpod⟩ := mem_podsIn_named_iff.mp hp
    rw [ns_of_mem_podsOf hpod, podOwner?_of_mem_podsOf hw hpod, workload_of_mem_podsOf hpod]
    rfl
  have hkey : (workloadsIn (.named ns)).filter (·.name == name) =
      workloads.filter fun w => w.ns == ns && w.name == name := by
    rw [workloadsIn, List.filter_filter]
    refine List.filter_congr fun w _ => ?_
    rw [NamespaceScope.holds_named, Bool.and_comm, BEq.comm]
  rw [howned, podsIn, filter_flatMap_podsOf (·.name == name), hkey, toList_workload?]

/-- The pods of a workload have different names. -/
theorem eq_of_name_of_mem_podsOf
    {q : Pod}
    (hw : w ∈ workloads)
    (hp : p ∈ podsOf w) (hq : q ∈ podsOf w)
    (hname : q.name = p.name) :
    q = p := by
  have htable : ∀ w ∈ workloads, ((podsOf w).map (·.name)).Nodup := by
    decide +kernel
  exact List.inj_on_of_nodup_map (htable w hw) hq hp hname

/-- A namespace and a name stand for the pod of this name that is listed in the
namespace. -/
theorem pod?_eq_some_iff
    {name : String} :
    pod? ns name = some p ↔ p ∈ podsIn (.named ns) ∧ p.name = name := by
  rw [pod?, Option.bind_eq_bind, Option.bind_eq_some_iff, mem_podsIn_named_iff]
  constructor
  · rintro ⟨w, howner, hfound⟩
    obtain ⟨hw, hns⟩ := mem_of_podOwner? howner
    exact ⟨⟨w, hw, hns, List.mem_of_find?_eq_some hfound⟩, by simpa using List.find?_some hfound⟩
  · rintro ⟨⟨w, hw, rfl, hp⟩, rfl⟩
    refine ⟨w, podOwner?_of_mem_podsOf hw hp, ?_⟩
    have hsome : ((podsOf w).find? (·.name == p.name)).isSome = true :=
      List.find?_isSome.mpr ⟨p, hp, beq_self_eq_true _⟩
    obtain ⟨found, hfound⟩ := Option.isSome_iff_exists.mp hsome
    have hname : found.name = p.name := by
      simpa using List.find?_some hfound
    rw [hfound, eq_of_name_of_mem_podsOf hw hp (List.mem_of_find?_eq_some hfound) hname]

theorem pod?_eq_none_iff
    {name : String} :
    pod? ns name = none ↔ ∀ p ∈ podsIn (.named ns), p.name ≠ name := by
  simp only [Option.eq_none_iff_forall_ne_some, ne_eq, pod?_eq_some_iff, not_and]

end Owners

end Cluster

open Cluster

/-! ## Pods of an item -/

/-- A kind of workloads reports the pods of the workload that an item stands for. -/
theorem Kind.pods_ofFamily (family : Kind.WorkloadFamily) (item : Item) :
    (Kind.ofFamily family).pods item =
      ((workload? item.ns item.name).toList.flatMap podsOf).map Kind.podItem := by
  cases hfound : workload? item.ns item.name with
  | none =>
      simp only [Kind.ofFamily, Kind.workloadOf?, hfound]
      rfl
  | some w =>
      simp only [Kind.ofFamily, Kind.workloadOf?, hfound, Option.toList_some,
        List.flatMap_singleton]

/-- The relation to pods looks for the same by the owners of the pods. -/
theorem relatedItems_pods (item : Item) :
    relatedItems .standard .pods item =
      ((workload? item.ns item.name).toList.flatMap podsOf).map Kind.podItem := by
  have hpods : relatedItems .standard .pods item =
      ((podsIn (.named item.ns)).map Kind.podItem).filter fun pod =>
        (podOwner? pod.ns pod.name).any (·.name == item.name) := by
    rfl
  rw [hpods, List.filter_map, ← filter_owned_podsIn]
  rfl

/-- The pods that a kind of workloads reports for an item are, in their order, the items
that the relation to pods leads to: those of the workload with the namespace and the name
of the item, and none when there is no such workload.  A namespace and a name stand for
the one pod of this name that is listed in the namespace, and for none when there is no
such pod. -/
theorem pods_found_either_way
    (family : Kind.WorkloadFamily) (item : Item) (ns name : String) :
    (Kind.ofFamily family).pods item = relatedItems .standard .pods item ∧
    ((∃ w ∈ workloads, w.ns = item.ns ∧ w.name = item.name ∧
        relatedItems .standard .pods item = (podsOf w).map Kind.podItem) ∨
      (∀ w ∈ workloads, ¬ (w.ns = item.ns ∧ w.name = item.name)) ∧
        (Kind.ofFamily family).pods item = [] ∧ relatedItems .standard .pods item = []) ∧
    (∀ p, pod? ns name = some p ↔ p ∈ podsIn (.named ns) ∧ p.name = name) ∧
    (pod? ns name = none ↔ ∀ p ∈ podsIn (.named ns), p.name ≠ name) := by
  refine ⟨?_, ?_, fun p => pod?_eq_some_iff, pod?_eq_none_iff⟩
  · rw [Kind.pods_ofFamily, relatedItems_pods]
  · rw [Kind.pods_ofFamily, relatedItems_pods]
    cases hfound : workload? item.ns item.name with
    | none =>
        refine Or.inr ⟨?_, rfl, rfl⟩
        rintro w hw ⟨hns, hname⟩
        rw [workload?_eq_some_iff.mpr ⟨hw, hns, hname⟩] at hfound
        cases hfound
    | some w =>
        obtain ⟨hw, hns, hname⟩ := workload?_eq_some_iff.mp hfound
        refine Or.inl ⟨w, hw, hns, hname, ?_⟩
        rw [Option.toList_some, List.flatMap_singleton]

end ClusterNav
