import ClusterNav.Proofs.Openings
import ClusterNav.Proofs.TowerInvariant
import ClusterNav.Start

/-!
# The kinds that lists are made of

However a host gets to a list, its kind is one of the registry, a custom resource,
or what a relation of an item leads to.  Items are many, but of a kind made from them
the name and the columns do not depend on the item, so all that column choices depend
on is a finite table.

**Results.**
* `Registry.knows_of_kindOf`: a host starts on a known kind.
* `Host.knows_run`: after every run, a list on top is of a known kind.
* `Registry.Knows.face_mem`: the name and the columns of a known kind are in the table.
* `Registry.Knows.of_shared_name`: which known kinds share a name, but not the columns.
-/

namespace ClusterNav

/-- The kinds that lists can be made of. -/
inductive Registry.Knows (r : Registry) : Kind → Prop
  | listed {kind : Kind} (h : kind ∈ r.kinds) : r.Knows kind
  | primary : r.Knows r.primary
  | namespaces : r.Knows r.namespaceKind
  | contexts : r.Knows r.contextKind
  | custom {c : Cluster.CustomResource} (h : c ∈ r.custom) : r.Knows (.ofCustom c)
  | related {relation : Relation} (item : Item) (h : relation ≠ .events) :
      r.Knows (.ofRelation r relation item)

namespace Registry

theorem knows_of_resolve?
    {r : Registry} {text : String} {kind : Kind}
    (h : r.resolve? text = some kind) :
    r.Knows kind := by
  simp only [resolve?] at h
  split at h
  · cases h
  · rcases Option.or_eq_some_iff.mp h with hlisted | ⟨-, hcustom⟩
    · exact .listed (List.mem_of_find?_eq_some hlisted)
    · obtain ⟨c, hc, rfl⟩ := Option.map_eq_some_iff.mp hcustom
      exact .custom (List.mem_of_find?_eq_some hc)

/-- A host starts on a known kind, whatever the configuration asks for; so what is said of
hosts that start on known kinds is said of all that a configuration starts. -/
theorem knows_of_kindOf
    {r : Registry} {config : Config} {kind : Kind}
    (h : Host.kindOf r config = .ok kind) :
    r.Knows kind := by
  unfold Host.kindOf at h
  split at h
  · cases h
    exact .primary
  · split at h
    · rename_i found hfound
      cases h
      exact knows_of_resolve? hfound
    · cases h

end Registry

/-! ## The kinds of views -/

/-- The table of kinds keeps its kinds. -/
theorem BrowserView.kinds_key (v : BrowserView) (k : Key) :
    (v.key k).view.kinds = v.kinds := by
  have hanswer := v.keyAnswer_key k
  generalize v.key k = r at hanswer ⊢
  cases hanswer <;> rfl

namespace View

/-- The kinds that a view lists, or that it offers to list. -/
def kinds : View → List Kind
  | .list v => [v.kind]
  | .browser v => v.kinds
  | .detail _ | .text _ | .relations _ | .pods _ | .containers _ | .log _ | .columns _
  | .scope _ | .help _ => []

theorem kinds_setSize (v : View) (width height : Nat) :
    (v.setSize width height).kinds = v.kinds := by
  cases v <;> rfl

theorem kinds_respond (v : View) (session : Session) (event : Event) :
    (v.respond session event).view.kinds = v.kinds := by
  cases v with
  | list v =>
      have hsubject := (v.stays_respond session event).subject
      exact congrArg (fun s => [s.1]) hsubject
  | browser v =>
      cases event with
      | key k =>
          exact v.kinds_key k
      | resize width height | message m =>
          rfl
  | detail v | text v | relations v | pods v | containers v | log v | columns v | scope v
  | help v =>
      rfl

/-- A page lists no kinds. -/
theorem kinds_of_isPage
    {next : Destination}
    (h : next.isPage = true)
    (session : Session) :
    (ofDestination session next).kinds = [] := by
  cases next <;> first | rfl | cases h

/-- All kinds that a view lists or offers are known. -/
def Knows (r : Registry) (v : View) : Prop :=
  ∀ kind ∈ v.kinds, r.Knows kind

end View

open View (Opening)

theorem kept_knows (r : Registry) : Kept r r.Knows (fun v _ => v.Knows r) where
  hotkey hhotkey := .listed (List.mem_of_find?_eq_some hhotkey)
  root := by
    rintro session kind rfl hkind scope
    cases scope with
    | resources =>
        exact List.forall_mem_singleton.mpr hkind
    | namespaces =>
        exact List.forall_mem_singleton.mpr .namespaces
    | contexts =>
        exact List.forall_mem_singleton.mpr .contexts
  fits := by
    intro v below hv width height
    rw [View.Knows, v.kinds_setSize]
    exact hv
  answers := by
    intro session v below hr hv event
    rw [View.Knows, v.kinds_respond]
    exact hv
  opens := by
    rintro session v below event next rfl hv hmove
    have hopening := v.opening session event
    rw [hmove] at hopening
    cases hopening with
    | kind hkind =>
        exact List.forall_mem_singleton.mpr (hv _ hkind)
    | related hevents =>
        exact List.forall_mem_singleton.mpr (.related _ hevents)
    | columns =>
        simp [View.Knows, View.ofDestination, View.kinds]
    | turns hm =>
        rw [View.Knows, View.kinds_of_isPage (hm next rfl)]
        simp
  replaces := by
    rintro session v below event next rfl hv hmove
    have hopening := v.opening session event
    rw [hmove] at hopening
    cases hopening with
    | turns hm =>
        rw [View.Knows, View.kinds_of_isPage (hm next rfl)]
        simp
  reaches := by
    rintro session c next rfl htarget v
    unfold Host.globalTarget? at htarget
    split at htarget
    · cases htarget
      simp [View.Knows, View.ofDestination, View.kinds]
    · cases htarget
      intro kind hkind
      rcases List.mem_append.mp (List.mem_mergeSort.mp hkind) with hlisted | hcustom
      · exact .listed hlisted
      · obtain ⟨c, hc, rfl⟩ := List.mem_map.mp hcustom
        exact .custom hc
    · cases htarget
      simp [View.Knows, View.ofDestination, View.kinds]
    · cases htarget
      simp [View.Knows, View.ofDestination, View.kinds]
    · cases htarget

/-- Whatever a host that starts on a known kind lists is of a known kind. -/
theorem Host.knows_run
    {session : Session} {start : Kind}
    (hstart : session.registry.Knows start)
    {events : List Event} {v : ListView}
    (htop : ((ofKind session start).run events).top = .list v) :
    session.registry.Knows v.kind := by
  have hrun := holds_run (kept_knows session.registry) rfl hstart events
  have hkinds := hrun.top
  rw [htop] at hkinds
  exact hkinds v.kind List.mem_cons_self

/-! ## The table of known kinds -/

/-- What column choices depend on in a kind, and its source. -/
structure Face where
  name : String
  builtin : Bool
  columns : List Column
deriving DecidableEq

namespace Kind

def face (kind : Kind) : Face where
  name := kind.name
  builtin := kind.builtin
  columns := kind.columns

/-- Whatever the item, a relation leads to a kind with the same face. -/
theorem face_ofRelation (r : Registry) (relation : Relation) (item : Item) :
    (ofRelation r relation item).face = (ofRelation r relation {}).face := by
  rfl

end Kind

/-- The relations that lead to a list. -/
def Relation.lists : List Relation :=
  [.pods, .jobs, .services, .config, .storage, .backends, .consumers, .mountedBy, .owner]

theorem Relation.mem_lists
    {relation : Relation}
    (h : relation ≠ .events) :
    relation ∈ lists := by
  cases relation <;> first | decide | exact absurd rfl h

/-- The faces of all known kinds. -/
def Registry.faces (r : Registry) : List Face :=
  r.kinds.map Kind.face
  ++ [r.primary.face, r.namespaceKind.face, r.contextKind.face]
  ++ r.custom.map (fun c => (Kind.ofCustom c).face)
  ++ Relation.lists.map fun relation => (Kind.ofRelation r relation {}).face

theorem Registry.Knows.face_mem
    {r : Registry} {kind : Kind}
    (h : r.Knows kind) :
    kind.face ∈ r.faces := by
  simp only [faces, List.mem_append, List.mem_map]
  cases h with
  | listed hkind =>
      exact Or.inl (Or.inl (Or.inl ⟨_, hkind, rfl⟩))
  | primary | namespaces | contexts =>
      exact Or.inl (Or.inl (Or.inr (by simp)))
  | custom hc =>
      exact Or.inl (Or.inr ⟨_, hc, rfl⟩)
  | @related relation item hevents =>
      have hface := Kind.face_ofRelation r relation item
      exact Or.inr ⟨relation, Relation.mem_lists hevents, hface.symm⟩

/-! ## Names that kinds share -/

namespace Registry

/-- The names that a relation shares with a kind of the registry that has other
columns. -/
def sharedNames : List String :=
  ["pods", "jobs", "services"]

variable {kind other : Kind}

/-- A known kind with a shared name that is not built in is a relation. -/
theorem Knows.related_of_not_builtin
    (h : standard.Knows kind)
    (hname : kind.name ∈ sharedNames)
    (hbuiltin : kind.builtin = false) :
    ∃ relation item, kind = .ofRelation standard relation item := by
  have hkinds : ∀ f ∈ standard.kinds.map Kind.face, f.builtin = true := by
    decide
  have hcustom : ∀ c ∈ standard.custom, (Kind.ofCustom c).name ∉ sharedNames := by
    decide
  cases h with
  | listed hlisted =>
      have htrue : kind.builtin = true := hkinds _ (List.mem_map_of_mem hlisted)
      rw [hbuiltin] at htrue
      cases htrue
  | primary | namespaces | contexts =>
      cases hbuiltin
  | custom hc =>
      exact absurd hname (hcustom _ hc)
  | related item hevents =>
      exact ⟨_, item, rfl⟩

/-- A known kind with a shared name that is built in is one of the registry. -/
theorem Knows.listed_of_builtin
    (h : standard.Knows kind)
    (hname : kind.name ∈ sharedNames)
    (hbuiltin : kind.builtin = true) :
    kind ∈ standard.kinds := by
  cases h with
  | listed hlisted =>
      exact hlisted
  | primary | namespaces | contexts =>
      exact absurd hname (by decide)
  | custom hc | related item hevents =>
      cases hbuiltin

/-- Two known kinds that share a name but not the columns are a kind of the registry
and a relation. -/
theorem Knows.of_shared_name
    (hkind : standard.Knows kind)
    (hother : standard.Knows other)
    (hname : other.name = kind.name)
    (hcolumns : other.columns ≠ kind.columns) :
    kind.name ∈ sharedNames ∧ ∃ relation item,
      (kind ∈ standard.kinds ∧ other = .ofRelation standard relation item ∨
        other ∈ standard.kinds ∧ kind = .ofRelation standard relation item) := by
  have htable : ∀ f ∈ standard.faces, ∀ g ∈ standard.faces,
      g.name = f.name → g.columns ≠ f.columns →
      f.name ∈ sharedNames ∧ g.builtin = !f.builtin := by
    decide +kernel
  obtain ⟨hshared, hbuiltin⟩ := htable _ hkind.face_mem _ hother.face_mem hname hcolumns
  change kind.name ∈ sharedNames at hshared
  change other.builtin = !kind.builtin at hbuiltin
  refine ⟨hshared, ?_⟩
  cases hsource : kind.builtin with
  | true =>
      rw [hsource] at hbuiltin
      obtain ⟨relation, item, hrelation⟩ :=
        hother.related_of_not_builtin (hname ▸ hshared) hbuiltin
      exact ⟨relation, item, Or.inl ⟨hkind.listed_of_builtin hshared hsource, hrelation⟩⟩
  | false =>
      rw [hsource] at hbuiltin
      obtain ⟨relation, item, hrelation⟩ := hkind.related_of_not_builtin hshared hsource
      have hlisted := hother.listed_of_builtin (hname ▸ hshared) hbuiltin
      exact ⟨relation, item, Or.inr ⟨hlisted, hrelation⟩⟩

end Registry
end ClusterNav
