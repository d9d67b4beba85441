import ClusterNav.Proofs.KnownKinds
import Mathlib.Data.List.Nodup

/-!
# Items that relations lead to

The list of a relation is a kind of its own, made of items of other kinds.  What it says
of an item it asks the kind of the item's tag for, so it shows the item as that kind
does.  Which relations the item has is another matter: this goes by the name of the
kind, and the list of a relation goes by the name of the relation.

**Results.**
* `Relation.exists_kind`: the items of a relation are of kinds of the registry.
* `Kind.showsAs_ofRelation`: the list of a relation shows an item as its kind does.
* `related_item_offers_iff`: for which relations it also offers what the kind offers.
* `config_maps_offer_less`: a config map whose consumers are out of reach.
-/

namespace ClusterNav

open Cluster

/-! ## Whose items a relation finds -/

/-- The kinds that the items of a relation are of. -/
def Relation.kinds : Relation → List Kind
  | .pods | .backends => [.pod]
  | .jobs => [.job]
  | .services => [.service]
  | .config => [.configMap, .secret]
  | .storage => [.volumeClaim]
  | .consumers | .mountedBy | .owner => [.deployment, .statefulSet, .daemonSet, .cronJob, .job]
  | .events => []

namespace Kind

/-- The items of a kind have its tag. -/
def Tags (kind : Kind) : Prop :=
  ∀ scope, ∀ item ∈ kind.items scope, kind.tag = item.kind

theorem tags_pod : pod.Tags := by
  intro scope item hitem
  obtain ⟨p, -, rfl⟩ := List.mem_map.mp hitem
  rfl

theorem tags_service : service.Tags := by
  intro scope item hitem
  obtain ⟨s, -, rfl⟩ := List.mem_map.mp hitem
  rfl

theorem tags_volumeClaim : volumeClaim.Tags := by
  intro scope item hitem
  obtain ⟨c, -, rfl⟩ := List.mem_map.mp hitem
  rfl

/-- Config maps are listed apart from secrets. -/
theorem tags_configObjects (isSecret : Bool) : (configObjects isSecret).Tags := by
  intro scope item hitem
  obtain ⟨o, ho, rfl⟩ := List.mem_map.mp hitem
  obtain ⟨-, hsecret⟩ := List.mem_filter.mp ho
  obtain ⟨rfl, -⟩ : o.isSecret = isSecret ∧ scope.holds o.ns = true := by
    simpa using hsecret
  rfl

/-- A workload has the tag of its controller, whose kind is another one. -/
theorem tag_of_mem_workload
    {scope : NamespaceScope} {item : Item}
    (hitem : item ∈ workload.items scope) :
    ∃ kind ∈ Relation.kinds .owner, kind.tag = item.kind := by
  obtain ⟨w, -, rfl⟩ := List.mem_map.mp hitem
  show ∃ kind ∈ Relation.kinds .owner, kind.tag = w.controller.tag
  cases w.controller with
  | deployment =>
      exact ⟨deployment, by simp [Relation.kinds], rfl⟩
  | statefulSet =>
      exact ⟨statefulSet, by simp [Relation.kinds], rfl⟩
  | daemonSet =>
      exact ⟨daemonSet, by simp [Relation.kinds], rfl⟩
  | cronJob =>
      exact ⟨cronJob, by simp [Relation.kinds], rfl⟩
  | job =>
      exact ⟨job, by simp [Relation.kinds], rfl⟩

end Kind

namespace Relation

variable {relation : Relation} {source item : Item}

/-- What is found among the items of a kind has its tag. -/
theorem exists_kind_of_mem_neighbours
    {name : String} {kind : Kind} {keep : Item → Bool}
    (hname : Registry.standard.byName? name = some kind)
    (hkind : kind ∈ relation.kinds)
    (htags : kind.Tags)
    (h : item ∈ Registry.standard.neighbours name source keep) :
    ∃ kind ∈ relation.kinds, kind.tag = item.kind := by
  rw [Registry.neighbours, hname] at h
  exact ⟨kind, hkind, htags _ item (List.mem_filter.mp h).1⟩

/-- The items of a relation are of kinds of the registry. -/
theorem exists_kind
    (h : item ∈ relatedItems .standard relation source) :
    ∃ kind ∈ relation.kinds, kind.tag = item.kind := by
  unfold relatedItems at h
  cases relation with
  | pods =>
      exact exists_kind_of_mem_neighbours rfl (by simp [kinds]) Kind.tags_pod h
  | backends =>
      dsimp only at h
      split at h
      · exact exists_kind_of_mem_neighbours rfl (by simp [kinds]) Kind.tags_pod h
      · cases h
  | jobs =>
      dsimp only at h
      split at h
      · refine ⟨.job, by simp [kinds], ?_⟩
        simp only [jobRuns, List.mem_cons, List.not_mem_nil, or_false] at h
        rcases h with rfl | rfl | rfl <;> rfl
      · cases h
  | services =>
      exact exists_kind_of_mem_neighbours rfl (by simp [kinds]) Kind.tags_service h
  | config =>
      rcases List.mem_append.mp h with hmap | hsecret
      · exact exists_kind_of_mem_neighbours rfl (by simp [kinds, Kind.configMap])
          (Kind.tags_configObjects false) hmap
      · exact exists_kind_of_mem_neighbours rfl (by simp [kinds, Kind.secret])
          (Kind.tags_configObjects true) hsecret
  | storage =>
      exact exists_kind_of_mem_neighbours rfl (by simp [kinds]) Kind.tags_volumeClaim h
  | consumers | mountedBy | owner =>
      exact Kind.tag_of_mem_workload (List.mem_filter.mp h).1
  | events =>
      cases h

end Relation

/-! ## The kind of a tag -/

theorem Relation.kinds_subset (relation : Relation) :
    relation.kinds ⊆ Registry.standard.kinds := by
  cases relation <;> simp [kinds, Registry.standard]

/-- No two kinds of the registry have the same tag. -/
theorem Registry.eq_of_tag_eq
    {kind other : Kind}
    (hkind : kind ∈ standard.kinds) (hother : other ∈ standard.kinds)
    (htag : other.tag = kind.tag) :
    other = kind := by
  have hnodup : (standard.kinds.map (·.tag)).Nodup := by
    decide
  exact List.inj_on_of_nodup_map hnodup hother hkind htag

namespace Kind

variable {kind : Kind} {item : Item}

theorem ownerOf_eq
    (hkind : kind ∈ Registry.standard.kinds)
    (htag : kind.tag = item.kind)
    (fallback : Kind) :
    ownerOf .standard fallback item = kind := by
  have hsome : (Registry.standard.kinds.find? (·.tag == item.kind)).isSome = true :=
    List.find?_isSome.mpr ⟨kind, hkind, by simp [htag]⟩
  obtain ⟨found, hfound⟩ := Option.isSome_iff_exists.mp hsome
  have htags : found.tag = item.kind := by
    simpa using List.find?_some hfound
  rw [ownerOf, hfound, Option.getD_some]
  exact Registry.eq_of_tag_eq hkind (List.mem_of_find?_eq_some hfound) (htags.trans htag.symm)

/-- Two kinds show the same of an item. -/
structure ShowsAs (kind other : Kind) (item : Item) : Prop where
  detail : kind.detail item = other.detail item
  logs : kind.logs item = other.logs item
  followLine? : kind.followLine? item = other.followLine? item
  events : kind.events item = other.events item
  yaml : kind.yaml item = other.yaml item
  describe : kind.describe item = other.describe item
  pods : kind.pods item = other.pods item
  containers : kind.containers item = other.containers item

/-- The list of a relation shows an item as the kind of its tag does. -/
theorem showsAs_ofRelation
    (hkind : kind ∈ Registry.standard.kinds)
    (htag : kind.tag = item.kind)
    (relation : Relation) (source : Item) :
    (ofRelation .standard relation source).ShowsAs kind item := by
  have hshows : (ofRelation .standard relation source).ShowsAs
      (ownerOf .standard (relation.target .standard) item) item :=
    ⟨rfl, rfl, rfl, rfl, rfl, rfl, rfl, rfl⟩
  rw [ownerOf_eq hkind htag] at hshows
  exact hshows

end Kind

/-! ## The relations of an item -/

/-- The relations whose lists have the name of the kind that they lead to. -/
def Relation.namesakes : List Relation :=
  [.pods, .jobs, .services]

section Relations

variable {relation : Relation} {kind other : Kind} {source item : Item}

/-- Of an item only the tag matters for its relations. -/
theorem relationsFor_tag (kind : Kind) (item : Item) :
    relationsFor kind item = relationsFor kind { kind := item.kind } := by
  rfl

/-- Through the list of a relation an item has the relations of its kind when the two go
by the same name, and no relation but the events otherwise. -/
theorem relationsFor_ofRelation
    (hkind : kind ∈ relation.kinds)
    (htag : kind.tag = item.kind)
    (source : Item) :
    (relationsFor (.ofRelation .standard relation source) item = relationsFor kind item ↔
      relation ∈ Relation.namesakes) ∧
    (relation ∉ Relation.namesakes →
      relationsFor (.ofRelation .standard relation source) item = [.events]) := by
  have htable : ∀ relation ∈ Relation.lists, ∀ kind ∈ relation.kinds,
      (relationsFor (.ofRelation .standard relation {}) { kind := kind.tag } =
          relationsFor kind { kind := kind.tag } ↔ relation ∈ Relation.namesakes) ∧
      (relation ∉ Relation.namesakes →
        relationsFor (.ofRelation .standard relation {}) { kind := kind.tag } = [.events]) := by
    decide
  have hevents : relation ≠ .events := by
    rintro rfl
    cases hkind
  rw [relationsFor_tag, relationsFor_tag kind, ← htag]
  exact htable relation (Relation.mem_lists hevents) kind hkind

/-- The entries of two kinds with the same events differ as the relations do. -/
theorem relationEntries_eq_iff
    (hevents : kind.events item = other.events item)
    (r : Registry) :
    relationEntries r kind item = relationEntries r other item ↔
      relationsFor kind item = relationsFor other item := by
  constructor
  · intro hentries
    have hrelations (k : Kind) :
        (relationEntries r k item).map (·.relation) = relationsFor k item := by
      simp [relationEntries, Function.comp_def]
    rw [← hrelations kind, ← hrelations other, hentries]
  · intro hrelations
    rw [relationEntries, relationEntries, hrelations, hevents]

end Relations

/-- Whatever the list of a relation finds is of exactly one kind of the registry, by its
tag, and the list shows it as this kind does.  What it offers to go to from there is the
same exactly for the pods, jobs and services of a workload.  In all other lists an item
has no relation but its events. -/
theorem related_item_offers_iff
    (source : Item) (relation : Relation) (item : Item)
    (hitem : item ∈ relatedItems .standard relation source) :
    let through := Kind.ofRelation .standard relation source
    ∃ kind ∈ Registry.standard.kinds, kind.tag = item.kind ∧
      (∀ other ∈ Registry.standard.kinds, other.tag = item.kind → other = kind) ∧
      through.ShowsAs kind item ∧
      (relationsFor through item = relationsFor kind item ↔
        relation ∈ Relation.namesakes) ∧
      (relationEntries .standard through item = relationEntries .standard kind item ↔
        relation ∈ Relation.namesakes) ∧
      (relation ∉ Relation.namesakes → relationsFor through item = [.events]) := by
  intro through
  obtain ⟨kind, hkind, htag⟩ := Relation.exists_kind hitem
  have hlisted := relation.kinds_subset hkind
  have hshows := Kind.showsAs_ofRelation hlisted htag relation source
  obtain ⟨hiff, honly⟩ := relationsFor_ofRelation hkind htag source
  refine ⟨kind, hlisted, htag, ?_, hshows, hiff, ?_, honly⟩
  · intro other hother hsame
    exact Registry.eq_of_tag_eq hlisted hother (hsame.trans htag.symm)
  · exact (relationEntries_eq_iff hshows.events .standard).trans hiff

/-- A pod of a deployment has the relations of a pod, in the list of the pods of the
deployment as well. -/
theorem related_item_offers_iff_pods :
    let source : Item := { name := "api-gateway", ns := "default", kind := "DEP" }
    let through := Kind.ofRelation .standard .pods source
    ∃ item ∈ relatedItems .standard .pods source, ∃ kind ∈ Registry.standard.kinds,
      kind.tag = item.kind ∧ relationsFor through item = relationsFor kind item := by
  intro source through
  have hfound : relatedItems .standard .pods source ≠ [] := by
    decide +kernel
  obtain ⟨item, hitem⟩ := List.exists_mem_of_ne_nil _ hfound
  obtain ⟨kind, hkind, htag, -, -, hiff, -⟩ := related_item_offers_iff source .pods item hitem
  exact ⟨item, hitem, kind, hkind, htag, hiff.mpr (by decide)⟩

/-- A deployment reads a config map.  As a config map, this leads to its consumers; in
the list of what the deployment reads, it leads to its events only. -/
theorem config_maps_offer_less :
    ∃ source ∈ Kind.deployment.items .all, source.name = "api-gateway" ∧
      ∃ item ∈ relatedItems .standard .config source, item.name = "gateway-routes" ∧
        item.kind = Kind.configMap.tag ∧
        relationsFor (.ofRelation .standard .config source) item = [.events] ∧
        relationsFor .configMap item = [.consumers, .events] ∧
        relationEntries .standard (.ofRelation .standard .config source) item ≠
          relationEntries .standard .configMap item := by
  decide +kernel

end ClusterNav
