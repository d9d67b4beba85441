import ClusterNav.Proofs.KnownKinds

/-!
# Choices of columns side by side

A choice of columns is stored under the name of its kind.  Lists of all other names go
on as before.  A relation may be named after a kind of the registry, and then the two
share what is chosen, each out of its own columns.

**Results.**
* `ListView.refreshColumns_congr`: a list takes nothing from the store but the choice
  for its name.
* `column_choice_isolated`: which lists a choice of columns reaches.
-/

namespace ClusterNav

/-- A list takes nothing from the store but the choice for its name. -/
theorem ListView.refreshColumns_congr
    {v : ListView} {store store' : ColumnStore}
    (h : store.choice? v.kind.name = store'.choice? v.kind.name) :
    v.refreshColumns store = v.refreshColumns store' := by
  have hcustom : store.isCustom v.kind.name = store'.isCustom v.kind.name :=
    congrArg Option.isSome h
  rw [refreshColumns, refreshColumns, ColumnStore.get_congr h, hcustom]

/-- A list takes over a choice for its own name. -/
theorem Host.choice?_step_picked
    {h : Host} {v : ListView}
    (htop : h.top = .list v)
    (resource : String) (ids : List String) (name : String) :
    (h.step (.message (.picked resource ids))).1.session.columns.choice? name =
      if resource = v.kind.name ∧ resource = name then ColumnStore.stored v.kind.columns ids
      else h.session.columns.choice? name := by
  rw [session_step, nextSession, sessionAfter, htop]
  · show (v.storeAfter _ _).choice? name = _
    by_cases hname : resource = v.kind.name
    · subst hname
      rw [ListView.storeAfter, if_pos rfl, ColumnStore.choice?_pick]
      simp only [true_and]
    · rw [ListView.storeAfter, if_neg hname, if_neg fun hboth => hname hboth.1]
  · simp

/-- In all runs that start on a known kind: a choice of columns that comes to a list
leaves what a list of another kind shows as it is, when the two kinds have different
names.  Two known kinds that share a name but not the columns are a kind of the
registry and a relation, named pods, jobs or services; they share one choice as
well. -/
theorem column_choice_isolated
    (session : Session) (start : Kind) (events : List Event) (v : ListView)
    (resource : String) (ids : List String) (other : Kind)
    (hregistry : session.registry = .standard)
    (hstart : Registry.standard.Knows start)
    (htop : ((Host.ofKind session start).run events).top = .list v)
    (hother : Registry.standard.Knows other)
    (hcolumns : other.columns ≠ v.kind.columns) :
    let h := (Host.ofKind session start).run events
    let g := (h.step (.message (.picked resource ids))).1
    (other.name ≠ v.kind.name →
      ∀ w : ListView, w.kind = other →
        w.refreshColumns g.session.columns = w.refreshColumns h.session.columns) ∧
    (other.name = v.kind.name →
      v.kind.name ∈ Registry.sharedNames ∧
      (∃ relation item,
        v.kind ∈ Registry.standard.kinds ∧ other = .ofRelation .standard relation item ∨
        other ∈ Registry.standard.kinds ∧ v.kind = .ofRelation .standard relation item) ∧
      g.session.columns.choice? other.name =
        if resource = v.kind.name then ColumnStore.stored v.kind.columns ids
        else h.session.columns.choice? other.name) := by
  intro h g
  have hchoice (name : String) := Host.choice?_step_picked htop resource ids name
  have hknown : Registry.standard.Knows v.kind := by
    rw [← hregistry] at hstart ⊢
    exact Host.knows_run hstart htop
  constructor
  · rintro hname w rfl
    apply ListView.refreshColumns_congr
    rw [hchoice, if_neg]
    rintro ⟨rfl, hsame⟩
    exact hname hsame.symm
  · intro hname
    obtain ⟨hshared, hrelation⟩ := hknown.of_shared_name hother hname hcolumns
    refine ⟨hshared, hrelation, ?_⟩
    simp only [g, h, hchoice, hname, and_self]

/-- A choice for the stateful sets leaves the pods as they are. -/
theorem column_choice_isolated_pods :
    let h := Host.ofKind (.ofRegistry .standard .empty) .statefulSet
    let g := (h.step (.message (.picked "statefulsets" ["name"]))).1
    Kind.pod.columns ≠ Kind.statefulSet.columns ∧
    g.session.columns.choice? "statefulsets" = some ["name"] ∧
    (ListView.ofKind h.session .pod).refreshColumns g.session.columns =
      (ListView.ofKind h.session .pod).refreshColumns h.session.columns := by
  intro h g
  have hcolumns : Kind.pod.columns ≠ Kind.statefulSet.columns := by
    decide +kernel
  have hpods : Registry.standard.Knows .pod := .listed (by simp [Registry.standard])
  have hsets : Registry.standard.Knows .statefulSet := .listed (by simp [Registry.standard])
  have hisolated := column_choice_isolated (.ofRegistry .standard .empty) .statefulSet []
    (.ofKind (.ofRegistry .standard .empty) .statefulSet) "statefulsets" ["name"] .pod rfl hsets
    rfl hpods hcolumns
  exact ⟨hcolumns, by decide +kernel, hisolated.1 (by decide +kernel) _ rfl⟩

/-- The pods of a stateful set, as a relation, have other columns than the pods of the
registry.  A choice made in the one list changes what the other shows. -/
theorem related_pods_share_choice :
    let h := (Host.ofKind (.ofRegistry .standard .empty) .statefulSet).run
      [.key ⟨"r"⟩, .key ⟨"j"⟩, .key ⟨"enter"⟩]
    let g := (h.step (.message (.picked "pods" ["name"]))).1
    h.top.crumb = "pods" ∧
    h.top.kinds.map Kind.face = [(Kind.ofRelation .standard .pods {}).face] ∧
    Kind.pod.columns ≠ (Kind.ofRelation .standard .pods {}).columns ∧
    (ListView.ofKind h.session .pod).columns.map (·.id) =
      ["name", "status", "ready", "restarts", "age", "node"] ∧
    (ListView.ofKind g.session .pod).columns.map (·.id) = ["name"] := by
  decide +kernel

end ClusterNav
