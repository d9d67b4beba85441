import ClusterNav.Kind.Pods

/-!
# Workloads as kinds

All workloads together are one kind, and the workloads of each controller are another.
-/

namespace ClusterNav

open Cluster Yaml

namespace Kind

/-- What sets one kind of workloads apart from the others. -/
structure WorkloadFamily where
  name : String
  tag : String
  /-- The controller of the workloads; none stands for all. -/
  only : Option Controller := none
  hotkey : Option Char := none
  aliases : List String
  group : String

namespace WorkloadFamily

/-- Does a workload belong to the family? -/
def holds (family : WorkloadFamily) (w : Workload) : Bool :=
  family.only.all (w.controller = ·)

end WorkloadFamily

/-- How often the containers of pods were restarted. -/
def totalRestarts (pods : List Pod) : Nat :=
  pods.foldr (fun p n => p.restarts + n) 0

/-- A workload as an item; its restarts are those of all its pods. -/
def workloadItem (w : Workload) : Item where
  name := w.name
  ns := w.ns
  status := w.phase.title
  ready := w.ready
  restarts := toString (totalRestarts (podsOf w))
  age := w.age
  kind := w.controller.tag
  labels := .ofList [("app", w.name), ("tier", w.tier.title)]

def workloadOf? (item : Item) : Option Workload :=
  workload? item.ns item.name

/-- A count in digits below 2 ^ 32, with an optional plus sign; any other text counts as 0. -/
def readCount (s : String) : Nat :=
  let digits := match s.toList with
    | '+' :: rest => rest
    | cs => cs
  let value := digits.foldl (fun n d => 10 * n + (d.toNat - 48)) 0
  if !digits.isEmpty && digits.all Char.isDigit && value < 0x100000000 then value else 0

def workloadConditions : Phase → List String
  | .running | .completed => ["Available=True"]
  | .suspended => ["Suspended=True"]
  | .progressing =>
    ["Available=False  MinimumReplicasUnavailable", "Progressing=True  ReplicaSetUpdated"]
  | _ => ["Available=False  MinimumReplicasUnavailable"]

/-- The detail page of a workload; its containers are those of the first pod. -/
def workloadDetail (item : Item) (w : Workload) : Detail where
  summary := s!"{w.controller.apiKind} {w.name} · {w.ready} ready · {w.phase.title}"
  containers :=
    containerRows w (((podsOf w).head?.map (·.phase)).getD w.phase) (readCount item.restarts)
  conditions := workloadConditions w.phase
  events := occurrenceLines item.ns item.name
  labels := item.labelLines

def workloadYaml (item : Item) (w : Workload) : String :=
  resourceDocument w.controller.apiVersion w.controller.apiKind item
    [("spec", .ofFields
       [("replicas", .int w.replicas),
        ("selector", .ofFields [("matchLabels", .ofFields [("app", .text w.name)])]),
        ("template", .ofFields [("spec", .ofFields [("containers", containerDocs w)])])]),
     ("status", .ofFields [("ready", .text w.ready), ("phase", .text w.phase.title)])]

def workloadDescription (item : Item) (w : Workload) : String :=
  item.describe w.controller.apiKind
    [("Replicas", s!"{w.replicas} desired | {w.ready} ready"), ("Selector", s!"app={w.name}"),
     ("Images", w.images)]

/-- The first pod of the workload an item stands for. -/
def firstPod? (item : Item) : Option Pod := do
  (podsOf (← workloadOf? item)).head?

/-- The kind of a family of workloads. -/
def ofFamily (family : WorkloadFamily) : Kind where
  name := family.name
  tag := family.tag
  hotkey := family.hotkey
  aliases := family.aliases
  group := family.group
  items scope := ((workloadsIn scope).filter family.holds).map workloadItem
  sortModes :=
    if family.only.isNone then [.name, .status, .kind, .age, .problem]
    else [.name, .status, .age, .problem]
  columns :=
    [{ id := "name", name := "NAME", width := 28 },
     { id := "kind", name := "KIND", width := 5, byDefault := family.only.isNone },
     { id := "status", name := "STATUS", width := 18 },
     { id := "ready", name := "READY", width := 7 },
     { id := "restarts", name := "RESTARTS", width := 9 },
     { id := "age", name := "AGE", width := 6 },
     { id := "images", name := "IMAGES", width := 40, wideOnly := true }]
  row item :=
    match workloadOf? item with
    | some w => item.row.insert "images" w.images
    | none => item.row
  detail item :=
    match workloadOf? item with
    | some w => workloadDetail item w
    | none => missingDetail item
  logs item request :=
    match firstPod? item with
    | some p => Log.ofPod p request
    | none => [s!"no pods running for {item.name}"]
  followLine? item container n := (firstPod? item).map fun p => Log.follow p container n
  yaml item :=
    match workloadOf? item with
    | some w => workloadYaml item w
    | none => document item []
  describe item :=
    match workloadOf? item with
    | some w => workloadDescription item w
    | none => item.describe family.name []
  pods item :=
    match workloadOf? item with
    | some w => (podsOf w).map podItem
    | none => []
  emptyMessage? scope := some s!"No {family.name} in {scope.phrase}."

def workload : Kind :=
  ofFamily
    { name := "workloads", tag := "Workload", hotkey := some 'W', aliases := ["wl", "workload"]
      group := "apps" }

def deployment : Kind :=
  ofFamily
    { name := "deployments", tag := "DEP", only := some .deployment, hotkey := some 'D'
      aliases := ["deploy", "deployment", "dep"], group := "apps" }

def statefulSet : Kind :=
  ofFamily
    { name := "statefulsets", tag := "STS", only := some .statefulSet
      aliases := ["sts", "statefulset"], group := "apps" }

def daemonSet : Kind :=
  ofFamily
    { name := "daemonsets", tag := "DS", only := some .daemonSet, aliases := ["ds", "daemonset"]
      group := "apps" }

def cronJob : Kind :=
  ofFamily
    { name := "cronjobs", tag := "CJ", only := some .cronJob, aliases := ["cj", "cronjob"]
      group := "batch" }

def job : Kind :=
  ofFamily
    { name := "jobs", tag := "JOB", only := some .job, aliases := ["job"], group := "batch" }

end Kind
end ClusterNav
