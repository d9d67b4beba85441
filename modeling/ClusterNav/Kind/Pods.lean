import ClusterNav.Kind

/-!
# Pods as a kind
-/

namespace ClusterNav

open Cluster Yaml

namespace Kind

def podItem (p : Pod) : Item where
  name := p.name
  ns := p.ns
  status := p.phase.title
  ready := p.ready
  restarts := toString p.restarts
  age := p.age
  kind := "PO"
  labels := .ofList [("app", p.workload.name), ("tier", p.workload.tier.title)]

/-- The state of a container, and the reason for it. -/
def containerState (phase : Phase) (isMain : Bool) : String × String :=
  match phase with
  | .running => ("Running", "")
  | .completed => ("Terminated", "Completed")
  | .crashLooping => if isMain then ("Waiting", "CrashLoopBackOff") else ("Running", "")
  | .creating => ("Waiting", "ContainerCreating")
  | _ => ("Waiting", "PodInitializing")

def containerRow (phase : Phase) (restarts : Nat) (isMain : Bool) (c : Container) :
    ContainerRow where
  name := c.name
  image := c.image
  state := (containerState phase isMain).1
  restarts := toString restarts
  reason := (containerState phase isMain).2

/-- The rows of all containers; restarts count for the main one. -/
def containerRows (w : Workload) (phase : Phase) (restarts : Nat) : List ContainerRow :=
  containerRow phase restarts true w.main :: w.sidecars.map (containerRow phase 0 false)

def containerDocs (w : Workload) : Doc :=
  .seq (w.containers.map fun c => .ofFields [("name", .text c.name), ("image", .text c.image)])

/-- The detail page of an item that is gone. -/
def missingDetail (item : Item) : Detail :=
  { summary := s!"{item.name} not found" }

/-- A condition, which holds or not. -/
def condition (name : String) (holds : Bool) : String :=
  name ++ "=" ++ if holds then "True" else "False"

def podDetail (item : Item) (p : Pod) : Detail where
  summary := s!"Pod {p.name} · {p.phase.title} · node {p.node} · {p.restarts} restarts"
  containers := containerRows p.workload p.phase p.restarts
  conditions :=
    [condition "PodScheduled" p.node?.isSome, condition "ContainersReady" (p.phase = .running),
     condition "Ready" (p.phase = .running)]
  events := occurrenceLines p.ns p.name
  labels := item.labelLines

def podYaml (item : Item) (p : Pod) : String :=
  resourceDocument "v1" "Pod" item
    [("spec", .ofFields [("nodeName", .text p.node), ("containers", containerDocs p.workload)]),
     ("status", .ofFields
       [("phase", .text p.phase.title), ("podIP", .text p.address),
        ("restartCount", .int p.restarts)])]

def podDescription (item : Item) (p : Pod) : String :=
  item.describe "Pod"
    [("Node", p.node), ("IP", p.address),
     ("Controlled By", s!"{p.workload.controller.apiKind}/{p.workload.name}"),
     ("Restarts", toString p.restarts)]

def podOf? (item : Item) : Option Pod :=
  pod? item.ns item.name

def pod : Kind where
  name := "pods"
  tag := "PO"
  hotkey := some 'P'
  aliases := ["po", "pod"]
  items scope := (podsIn scope).map podItem
  sortModes := [.name, .status, .age, .problem]
  columns :=
    [{ id := "name", name := "NAME", width := 34 },
     { id := "status", name := "STATUS", width := 18 },
     { id := "ready", name := "READY", width := 7 },
     { id := "restarts", name := "RESTARTS", width := 9 },
     { id := "age", name := "AGE", width := 6 },
     { id := "node", name := "NODE", width := 16, wideOnly := true },
     { id := "ip", name := "IP", width := 14, byDefault := false, wideOnly := true }]
  row item :=
    match podOf? item with
    | some p => (item.row.insert "node" p.node).insert "ip" p.address
    | none => item.row
  detail item :=
    match podOf? item with
    | some p => podDetail item p
    | none => missingDetail item
  logs item request :=
    match podOf? item with
    | some p => Log.ofPod p request
    | none => [s!"pod {item.name} not found"]
  followLine? item container n := (podOf? item).map fun p => Log.follow p container n
  yaml item :=
    match podOf? item with
    | some p => podYaml item p
    | none => document item []
  describe item :=
    match podOf? item with
    | some p => podDescription item p
    | none => item.describe "Pod" []
  pods item := [item]

end Kind
end ClusterNav
