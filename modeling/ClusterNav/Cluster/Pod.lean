import ClusterNav.Cluster.Workload

/-!
# Pods

A pod is one copy of a workload.  Everything about it follows from the workload and the number of the
copy, its name included; `podOwner?` goes back from a name to the workload.
-/

namespace ClusterNav
namespace Cluster

/-- One copy of a workload. -/
structure Pod where
  workload : Workload
  /-- The number of the copy, from 0. -/
  index : Nat
deriving DecidableEq, Repr

/-- The choice whose turn it is, when the choices take turns for ever. -/
def inTurn (choices : List String) (n : Nat) : String :=
  choices.getD (n % choices.length) ""

namespace Pod

/-- What follows the workload's name in a pod's name. -/
def suffix (p : Pod) : String :=
  match p.workload.controller with
  | .statefulSet => toString p.index
  | .daemonSet => inTurn ["h7x2p", "k3n9v", "z8c4w"] p.index
  | .job => "8fk2l"
  | .deployment | .cronJob => inTurn ["7c9d5-x2kqp", "7c9d5-m8wzt", "7c9d5-q4jrd"] p.index

def name (p : Pod) : String :=
  p.workload.name ++ "-" ++ p.suffix

def ns (p : Pod) : String :=
  p.workload.ns

def age (p : Pod) : String :=
  p.workload.age

/-- Is this the last copy?  Trouble with some copies shows in the last one. -/
def isLast (p : Pod) : Bool :=
  p.index + 1 == p.workload.replicas

def phase (p : Pod) : Phase :=
  match p.workload.phase with
  | .crashLooping => .crashLooping
  | .pending => .pending
  | .completed => .completed
  | .degraded => if p.isLast then .crashLooping else .running
  | .progressing => if p.isLast then .creating else .running
  | .running | .suspended | .creating => .running

/-- How many of the containers are ready. -/
def ready (p : Pod) : String :=
  let count := p.workload.containers.length
  let running := if p.phase = .running then count else 0
  s!"{running}/{count}"

/-- How often the main container was restarted. -/
def restarts (p : Pod) : Nat :=
  match p.phase with
  | .crashLooping => 14 + p.index * 3
  | .running => if p.workload.controller = .daemonSet then p.index else 0
  | _ => 0

/-- The node a pod runs on; a pending pod has none. -/
def node? (p : Pod) : Option String :=
  if p.phase = .pending then none
  else some (inTurn ["worker-a", "worker-b", "control-plane-1"] p.index)

/-- The text for what a pending pod lacks. -/
def absent : String := "<none>"

def node (p : Pod) : String :=
  p.node?.getD absent

def address (p : Pod) : String :=
  if p.phase = .pending then absent
  else s!"10.244.{p.index + 1}.{10 + p.workload.name.length}"

end Pod

def podsOf (w : Workload) : List Pod :=
  (List.range w.replicas).map (⟨w, ·⟩)

def podsIn (scope : NamespaceScope) : List Pod :=
  (workloadsIn scope).flatMap podsOf

/-- Is the object's name that of the owner, a hyphen and more? -/
def isNamedAfter (object owner : String) : Bool :=
  (owner.toList ++ ['-']).isPrefixOf object.toList

/-- The longer name of two, the second of equals. -/
def longerNamed (a b : Workload) : Workload :=
  if b.name.length < a.name.length then a else b

/-- The workload of a namespace that a pod's name belongs to: the one of the longest name. -/
def podOwner? (ns pod : String) : Option Workload :=
  match workloads.filter fun w => w.ns == ns && isNamedAfter pod w.name with
  | [] => none
  | w :: rest => some (rest.foldl longerNamed w)

/-- The pod of a namespace and name. -/
def pod? (ns name : String) : Option Pod := do
  let owner ← podOwner? ns name
  (podsOf owner).find? (·.name == name)

end Cluster
end ClusterNav
