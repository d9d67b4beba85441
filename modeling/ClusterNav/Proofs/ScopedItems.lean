import ClusterNav.Proofs.KnownKinds

/-!
# Items in scope

The rows of a kind are made step by step: pods from workloads, reports from pods, items
from all of these.  The scope is looked at in the first step, where a workload is taken
or left.  Since each step stays in the namespace that it starts from, this is the same
as to make all rows first and then to leave out those of other namespaces.

**Results.**
* `Scoped`: a listing that shows of all rows those in scope, and how filtered, mapped,
  expanded and joined listings inherit this.
* `Kind.scoped_ofFamily`, `Kind.scoped_pod`, `Kind.scoped_event` and so on: the kinds
  whose items live in namespaces.
* `items_follow_scope`: what the scope does to the items of every built-in kind.
-/

namespace ClusterNav

open Cluster

/-! ## Listings by scope -/

section Listings

variable {α β : Type} {ns : α → String} {ns' : β → String} {listing : NamespaceScope → List α}

/-- A listing of things in namespaces of the cluster: whatever the scope, it shows those
of all things that are in scope, in the same order. -/
structure Scoped (ns : α → String) (listing : NamespaceScope → List α) : Prop where
  narrows : ∀ scope, listing scope = (listing .all).filter fun a => scope.holds (ns a)
  known : ∀ a ∈ listing .all, ns a ∈ Cluster.namespaces

/-- A table that is filtered by scope. -/
theorem scoped_table
    {table : List α}
    (hknown : ∀ a ∈ table, ns a ∈ Cluster.namespaces) :
    Scoped ns fun scope => table.filter fun a => scope.holds (ns a) where
  narrows scope := by
    simp
  known a ha := hknown a (List.mem_of_mem_filter ha)

/-- The parts of a thing are in scope when it is, all of them or none. -/
theorem filter_parts
    {parts : List β} {name : String}
    (hns : ∀ b ∈ parts, ns' b = name)
    (scope : NamespaceScope) :
    parts.filter (fun b => scope.holds (ns' b)) = if scope.holds name then parts else [] := by
  split
  · rename_i hholds
    rw [List.filter_eq_self]
    intro b hb
    rw [hns b hb, hholds]
  · rename_i hnot
    rw [List.filter_eq_nil_iff]
    intro b hb
    rwa [hns b hb]

namespace Scoped

theorem filter
    (h : Scoped ns listing)
    (keep : α → Bool) :
    Scoped ns fun scope => (listing scope).filter keep where
  narrows scope := by
    rw [h.narrows scope, List.filter_filter, List.filter_filter]
    exact List.filter_congr fun a _ => Bool.and_comm _ _
  known a ha := h.known a (List.mem_of_mem_filter ha)

/-- Each thing is expanded into things of its own namespace. -/
theorem flatMap
    (h : Scoped ns listing)
    {parts : α → List β}
    (hns : ∀ a, ∀ b ∈ parts a, ns' b = ns a) :
    Scoped ns' fun scope => (listing scope).flatMap parts where
  narrows scope := by
    rw [h.narrows scope, List.filter_flatMap]
    induction listing .all with
    | nil =>
        rfl
    | cons a rest ih =>
        rw [List.flatMap_cons, ← ih, filter_parts (hns a), List.filter_cons]
        split
        · rw [List.flatMap_cons]
        · rw [List.nil_append]
  known b hb := by
    obtain ⟨a, ha, hpart⟩ := List.mem_flatMap.mp hb
    rw [hns a b hpart]
    exact h.known a ha

theorem map
    (h : Scoped ns listing)
    {f : α → β}
    (hns : ∀ a, ns' (f a) = ns a) :
    Scoped ns' fun scope => (listing scope).map f where
  narrows scope := by
    rw [h.narrows scope, List.filter_map]
    simp only [Function.comp_def, hns]
  known b hb := by
    obtain ⟨a, ha, rfl⟩ := List.mem_map.mp hb
    rw [hns]
    exact h.known a ha

theorem append
    (h : Scoped ns listing)
    {others : NamespaceScope → List α}
    (hothers : Scoped ns others) :
    Scoped ns fun scope => listing scope ++ others scope where
  narrows scope := by
    rw [h.narrows scope, hothers.narrows scope, List.filter_append]
  known a ha := (List.mem_append.mp ha).elim (h.known a) (hothers.known a)

/-- Of a namespace what lives there is shown. -/
theorem eq_filter
    (h : Scoped ns listing)
    (name : String) :
    listing (.named name) = (listing .all).filter fun a => ns a == name := by
  rw [h.narrows]
  exact List.filter_congr fun a _ => BEq.comm

/-- Of an unknown namespace nothing is shown. -/
theorem eq_nil
    (h : Scoped ns listing)
    {name : String}
    (hname : name ∉ Cluster.namespaces) :
    listing (.named name) = [] := by
  rw [h.eq_filter, List.filter_eq_nil_iff]
  intro a ha hns
  apply hname
  rw [← beq_iff_eq.mp hns]
  exact h.known a ha

/-- A row is shown in its namespace as often as among all rows. -/
theorem count_eq
    [DecidableEq α]
    (h : Scoped ns listing)
    (a : α) :
    (listing (.named (ns a))).count a = (listing .all).count a := by
  rw [h.eq_filter]
  exact List.count_filter (beq_self_eq_true _)

end Scoped

end Listings

/-! ## Objects of the cluster -/

namespace Cluster

theorem scoped_workloads : Scoped Workload.ns workloadsIn :=
  scoped_table (by decide)

theorem scoped_services : Scoped Service.ns servicesIn :=
  scoped_table (by decide)

theorem scoped_configObjects (isSecret : Bool) :
    Scoped ConfigObject.ns fun scope => configObjectsIn scope isSecret := by
  have hlisting : (fun scope => configObjectsIn scope isSecret) = fun scope =>
      (configObjects.filter fun o => scope.holds o.ns).filter (·.isSecret == isSecret) := by
    funext scope
    rw [List.filter_filter]
    rfl
  rw [hlisting]
  exact (scoped_table (by decide)).filter _

theorem scoped_volumeClaims : Scoped VolumeClaim.ns volumeClaimsIn :=
  scoped_table (by decide)

/-- Pods run in the namespace of their workload. -/
theorem ns_of_mem_podsOf
    {w : Workload} {p : Pod}
    (h : p ∈ podsOf w) :
    p.ns = w.ns := by
  obtain ⟨i, -, rfl⟩ := List.mem_map.mp h
  rfl

theorem scoped_pods : Scoped Pod.ns podsIn :=
  scoped_workloads.flatMap fun _ _ => ns_of_mem_podsOf

/-! Reports are made in the namespace of what they are about. -/

theorem ns_of_mem_workloadOccurrences
    {w : Workload} {o : Occurrence}
    (h : o ∈ workloadOccurrences w) :
    o.ns = w.ns := by
  unfold workloadOccurrences at h
  dsimp only at h
  split at h
  -- the last case is that of the phases that are not reported
  · rw [List.mem_singleton.mp h]
  · rw [List.mem_singleton.mp h]
  · rw [List.mem_singleton.mp h]
  · cases h

theorem ns_of_mem_podOccurrences
    {p : Pod} {o : Occurrence}
    (h : o ∈ podOccurrences p) :
    o.ns = p.ns := by
  unfold podOccurrences at h
  dsimp only at h
  split at h
  · rcases List.mem_pair.mp h with rfl | rfl <;> rfl
  · rw [List.mem_singleton.mp h]
  · rw [List.mem_singleton.mp h]
  · split at h
    · rw [List.mem_singleton.mp h]
    · rw [List.mem_singleton.mp h]
  · cases h

theorem ns_of_mem_claimOccurrences
    {c : VolumeClaim} {o : Occurrence}
    (h : o ∈ claimOccurrences c) :
    o.ns = c.ns := by
  unfold claimOccurrences at h
  split at h
  · rw [List.mem_singleton.mp h]
  · cases h

/-- What is reported of a workload: its own reports, then those of its pods. -/
theorem ns_of_mem_reports
    {w : Workload} {o : Occurrence}
    (h : o ∈ workloadOccurrences w ++ (podsOf w).flatMap podOccurrences) :
    o.ns = w.ns := by
  rcases List.mem_append.mp h with hown | hpods
  · exact ns_of_mem_workloadOccurrences hown
  · obtain ⟨p, hp, ho⟩ := List.mem_flatMap.mp hpods
    rw [ns_of_mem_podOccurrences ho, ns_of_mem_podsOf hp]

theorem scoped_occurrences : Scoped Occurrence.ns occurrencesIn :=
  (scoped_workloads.flatMap fun _ _ => ns_of_mem_reports).append
    (scoped_volumeClaims.flatMap fun _ _ => ns_of_mem_claimOccurrences)

end Cluster

/-! ## Kinds -/

namespace Kind

/-- The items of a kind live in namespaces. -/
def IsScoped (kind : Kind) : Prop :=
  Scoped Item.ns kind.items

theorem scoped_ofFamily (family : WorkloadFamily) : (ofFamily family).IsScoped :=
  (scoped_workloads.filter family.holds).map fun _ => rfl

theorem scoped_pod : pod.IsScoped :=
  scoped_pods.map fun _ => rfl

theorem scoped_service : service.IsScoped :=
  scoped_services.map fun _ => rfl

theorem scoped_configObjects (isSecret : Bool) : (configObjects isSecret).IsScoped :=
  (Cluster.scoped_configObjects isSecret).map fun _ => rfl

theorem scoped_volumeClaim : volumeClaim.IsScoped :=
  scoped_volumeClaims.map fun _ => rfl

theorem scoped_event : event.IsScoped :=
  scoped_occurrences.map fun _ => rfl

/-- The kinds of the registry are scoped if they are namespaced, and no scope matters to
the others. -/
theorem scoped_or_constant
    {kind : Kind}
    (h : Registry.standard.Knows kind)
    (hbuiltin : kind.builtin = true) :
    (kind.namespaced = true ∧ kind.IsScoped) ∨
      (kind.namespaced = false ∧ ∀ scope, kind.items scope = kind.items .all) := by
  cases h with
  | listed hkind =>
      simp only [Registry.standard, List.mem_cons, List.not_mem_nil, or_false] at hkind
      rcases hkind with rfl | rfl | rfl | rfl | rfl | rfl | rfl | rfl | rfl | rfl | rfl | rfl |
        rfl | rfl
      · exact Or.inl ⟨rfl, scoped_ofFamily _⟩
      · exact Or.inl ⟨rfl, scoped_pod⟩
      · exact Or.inl ⟨rfl, scoped_ofFamily _⟩
      · exact Or.inl ⟨rfl, scoped_ofFamily _⟩
      · exact Or.inl ⟨rfl, scoped_ofFamily _⟩
      · exact Or.inl ⟨rfl, scoped_ofFamily _⟩
      · exact Or.inl ⟨rfl, scoped_ofFamily _⟩
      · exact Or.inl ⟨rfl, scoped_service⟩
      · exact Or.inl ⟨rfl, scoped_configObjects _⟩
      · exact Or.inl ⟨rfl, scoped_configObjects _⟩
      · exact Or.inl ⟨rfl, scoped_volumeClaim⟩
      · exact Or.inr ⟨rfl, fun _ => rfl⟩
      · exact Or.inl ⟨rfl, scoped_event⟩
      · exact Or.inr ⟨rfl, fun _ => rfl⟩
  | primary =>
      exact Or.inl ⟨rfl, scoped_ofFamily _⟩
  | namespaces | contexts =>
      exact Or.inr ⟨rfl, fun _ => rfl⟩
  | custom hc | related item hevents =>
      cases hbuiltin

end Kind

/-- What a scope does to the items of a built-in kind.  If the kind is namespaced, a
namespace shows of all items its own, in their order: nothing if it is unknown, and each
of its items as often as among all.  The same holds of the pods and the reports that
items are made from.  If the kind is not namespaced, its items are the same in every
scope. -/
theorem items_follow_scope
    (kind : Kind)
    (hknown : Registry.standard.Knows kind)
    (hbuiltin : kind.builtin = true)
    (ns : String) :
    (kind.namespaced = true →
      kind.items (.named ns) = (kind.items .all).filter (·.ns == ns) ∧
      (ns ∉ Cluster.namespaces → kind.items (.named ns) = []) ∧
      (∀ item, item.ns = ns →
        (kind.items (.named ns)).count item = (kind.items .all).count item)) ∧
    (kind.namespaced = false → ∀ scope, kind.items scope = kind.items .all) ∧
    podsIn (.named ns) = (podsIn .all).filter (·.ns == ns) ∧
    occurrencesIn (.named ns) = (occurrencesIn .all).filter (·.ns == ns) := by
  refine ⟨?_, ?_, scoped_pods.eq_filter ns, scoped_occurrences.eq_filter ns⟩
  · intro hnamespaced
    rcases Kind.scoped_or_constant hknown hbuiltin with ⟨-, hscoped⟩ | ⟨hfalse, -⟩
    · refine ⟨hscoped.eq_filter ns, hscoped.eq_nil, ?_⟩
      rintro item rfl
      exact hscoped.count_eq item
    · rw [hfalse] at hnamespaced
      cases hnamespaced
  · intro hwhole
    rcases Kind.scoped_or_constant hknown hbuiltin with ⟨htrue, -⟩ | ⟨-, hconstant⟩
    · rw [htrue] at hwhole
      cases hwhole
    · exact hconstant

/-- The pods of one namespace are some of all pods. -/
theorem items_follow_scope_pods :
    Registry.standard.Knows .pod ∧ Kind.pod.builtin = true ∧
      Kind.pod.items (.named "payments") =
        (Kind.pod.items .all).filter (·.ns == "payments") ∧
      (Kind.pod.items (.named "payments")).length = 3 := by
  have hknown : Registry.standard.Knows .pod := .listed (by simp [Registry.standard])
  obtain ⟨hscoped, -⟩ := items_follow_scope .pod hknown rfl "payments"
  exact ⟨hknown, rfl, (hscoped rfl).1, by decide +kernel⟩

end ClusterNav
