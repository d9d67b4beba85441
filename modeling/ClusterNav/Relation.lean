import ClusterNav.Registry

/-!
# Relations

From an item one can go to the items related to it.  `relationsFor` tells which relations an item
has, `relatedItems` follows one of them, and `Kind.ofRelation` lists what it finds; such a list may
mix kinds, and each row is answered for by the kind of its tag.
-/

namespace ClusterNav

open Cluster

/-- How items relate to an item. -/
inductive Relation
  | pods
  | jobs
  | services
  | config
  | storage
  | events
  | backends
  | consumers
  | mountedBy
  | owner
deriving DecidableEq, Repr

namespace Relation

def title : Relation → String
  | .pods => "pods"
  | .jobs => "jobs"
  | .services => "services"
  | .config => "config"
  | .storage => "storage"
  | .events => "events"
  | .backends => "backends"
  | .consumers => "consumers"
  | .mountedBy => "mounted-by"
  | .owner => "owner"

/-- What a relation finds for an item of a name. -/
def describe (name : String) : Relation → String
  | .pods => s!"pods managed by {name}"
  | .jobs => s!"jobs spawned by {name}"
  | .services => s!"services selecting app={name}"
  | .config => s!"configmaps and secrets used by {name}"
  | .storage => s!"volume claims mounted by {name}"
  | .events => s!"recent events for {name}"
  | .backends => s!"pods behind {name}"
  | .consumers => s!"workloads reading {name}"
  | .mountedBy => s!"workloads mounting {name}"
  | .owner => s!"controller that owns {name}"

end Relation

/-- The relations of an item of a kind, in the order shown. -/
def relationsFor (kind : Kind) (item : Item) : List Relation :=
  match kind.name with
  | "workloads" | "deployments" | "statefulsets" | "daemonsets" | "cronjobs" | "jobs" =>
    [.events, .pods] ++ (if item.kind == "CJ" then [.jobs] else [])
      ++ [.services, .config, .storage]
  | "services" => [.backends, .events]
  | "configmaps" | "secrets" => [.consumers, .events]
  | "persistentvolumeclaims" => [.mountedBy, .events]
  | "pods" => [.owner, .events]
  | _ => [.events]

namespace Registry

variable (r : Registry)

/-- The items of a kind, in the namespace of an item, that pass a test. -/
def neighbours (kind : String) (item : Item) (keep : Item → Bool) : List Item :=
  match r.byName? kind with
  | some kind => (kind.items (.named item.ns)).filter keep
  | none => []

/-- The workloads, in the namespace of an item, of these names. -/
def workloadsNamed (item : Item) (names : List String) : List Item :=
  (r.primary.items (.named item.ns)).filter fun w => names.contains w.name

/-- The pods, in the namespace of an item, of a workload. -/
def podsOwnedBy (item : Item) (workload : String) : List Item :=
  r.neighbours "pods" item fun pod =>
    (podOwner? pod.ns pod.name).any (·.name == workload)

/-- The config maps or secrets that an item reads. -/
def configsReadBy (item : Item) (kind : String) (isSecret : Bool) : List Item :=
  r.neighbours kind item fun object =>
    (configObject? object.ns object.name isSecret).any (·.consumers.contains item.name)

end Registry

/-- The run of a cron job, `days` before now. -/
def jobRun (w : Workload) (run : String) (days : Nat) : Item where
  name := s!"{w.name}-{run}"
  status := "Completed"
  ready := "1/1"
  restarts := "0"
  age := s!"{days}d"
  kind := "JOB"
  ns := w.ns
  labels := .ofList [("job-name", w.name)]

/-- The last runs of a cron job. -/
def jobRuns (w : Workload) : List Item :=
  [jobRun w "28617120" 9, jobRun w "28615680" 10, jobRun w "28614240" 11]

/-- The items a relation leads to. -/
def relatedItems (r : Registry) (relation : Relation) (item : Item) : List Item :=
  match relation with
  | .pods => r.podsOwnedBy item item.name
  | .backends =>
    match service? item.ns item.name with
    | some s => r.podsOwnedBy item s.selector
    | none => []
  | .jobs =>
    match workload? item.ns item.name with
    | some w => jobRuns w
    | none => []
  | .services =>
    r.neighbours "services" item fun service =>
      (service? service.ns service.name).any (·.selector == item.name)
  | .config =>
    r.configsReadBy item "configmaps" false ++ r.configsReadBy item "secrets" true
  | .storage =>
    r.neighbours "persistentvolumeclaims" item fun claim =>
      (volumeClaim? claim.ns claim.name).any (·.mountedBy == item.name)
  | .consumers =>
    r.workloadsNamed item
      (((configObject? item.ns item.name (item.kind == "SEC")).map (·.consumers)).getD [])
  | .mountedBy =>
    r.workloadsNamed item ((volumeClaim? item.ns item.name).map (·.mountedBy)).toList
  | .owner =>
    r.workloadsNamed item ((podOwner? item.ns item.name).map (·.name)).toList
  | .events => []

/-- One line of the list of relations. -/
structure RelationEntry where
  relation : Relation
  count : Nat
  description : String
deriving DecidableEq, Repr

/-- The relations of an item, with the number of items each leads to. -/
def relationEntries (r : Registry) (kind : Kind) (item : Item) : List RelationEntry :=
  (relationsFor kind item).map fun relation =>
    { relation := relation
      count :=
        if relation = .events then (kind.events item).length
        else (relatedItems r relation item).length
      description := relation.describe item.name }

namespace Relation

/-- The kind a relation leads to, as far as it is one. -/
def targetName? : Relation → Option String
  | .pods | .backends => some "pods"
  | .jobs => some "jobs"
  | .services => some "services"
  | .storage => some "persistentvolumeclaims"
  | .config => some "configmaps"
  | .events | .consumers | .mountedBy | .owner => none

/-- The kind a relation leads to; the primary kind where there is no other. -/
def target (r : Registry) (relation : Relation) : Kind :=
  (relation.targetName?.bind r.byName?).getD r.primary

end Relation

namespace Kind

/-- The kind that answers for a row: that of the row's tag, or else the fallback. -/
def ownerOf (r : Registry) (fallback : Kind) (item : Item) : Kind :=
  (r.kinds.find? (·.tag == item.kind)).getD fallback

/-- The list of what a relation of an item leads to, as a kind of its own. -/
def ofRelation (r : Registry) (relation : Relation) (source : Item) : Kind :=
  let target := relation.target r
  { name := relation.title
    tag := target.tag
    builtin := false
    items := fun _ => relatedItems r relation source
    sortModes := [.name, .status, .problem]
    columns :=
      [{ id := "name", name := "NAME", width := 34 },
       { id := "kind", name := "KIND", width := 5 },
       { id := "status", name := "STATUS", width := 18 },
       { id := "ready", name := "READY", width := 7 },
       { id := "age", name := "AGE", width := 6 }]
    detail := fun item => (ownerOf r target item).detail item
    logs := fun item => (ownerOf r target item).logs item
    followLine? := fun item => (ownerOf r target item).followLine? item
    events := fun item => (ownerOf r target item).events item
    yaml := fun item => (ownerOf r target item).yaml item
    describe := fun item => (ownerOf r target item).describe item
    pods := fun item => (ownerOf r target item).pods item
    containers := fun item => (ownerOf r target item).containers item
    emptyMessage? := fun _ => some s!"No related {relation.title}." }

end Kind
end ClusterNav
