import ClusterNav.Kind.ConfigObjects
import ClusterNav.Kind.Contexts
import ClusterNav.Kind.Custom
import ClusterNav.Kind.Events
import ClusterNav.Kind.Namespaces
import ClusterNav.Kind.Nodes
import ClusterNav.Kind.Pods
import ClusterNav.Kind.Services
import ClusterNav.Kind.VolumeClaims
import ClusterNav.Kind.Workloads

/-!
# The registry

All kinds of the cluster in their order, and how one is found: by hotkey, by plural name, or by any
name a user may give it.
-/

namespace ClusterNav

open Cluster (CustomResource)

/-- The kinds of a cluster. -/
structure Registry where
  kinds : List Kind
  /-- The kind shown first. -/
  primary : Kind
  namespaceKind : Kind
  contextKind : Kind
  custom : List CustomResource
  namespaces : List String
  contexts : List String

namespace Registry

def standard : Registry where
  kinds :=
    [.workload, .pod, .deployment, .statefulSet, .daemonSet, .cronJob, .job, .service,
     .configMap, .secret, .volumeClaim, .node, .event, .namespaces]
  primary := .workload
  namespaceKind := .namespaces
  contextKind := .context
  custom := Cluster.customResources
  namespaces := Cluster.namespaces
  contexts := Cluster.contexts.map (·.name)

def byHotkey? (r : Registry) (c : Char) : Option Kind :=
  r.kinds.find? (·.hotkey == some c)

def byName? (r : Registry) (name : String) : Option Kind :=
  r.kinds.find? (·.name == name)

/-- Is the kind known by this name or alias? -/
def isCalled (kind : Kind) (token : String) : Bool :=
  kind.name == token || kind.aliases.contains token

/-- Is the custom resource known by this name, in full, in the plural or in the singular? -/
def isCalledCustom (c : CustomResource) (token : String) : Bool :=
  c.name == token || c.plural == token || Text.asciiLower c.kind == token

/-- The kind a user means, whatever the case and the blanks around it: a kind of the registry before
a custom resource. -/
def resolve? (r : Registry) (text : String) : Option Kind :=
  let token := Text.asciiLower (Text.trim text)
  if token.isEmpty then none
  else (r.kinds.find? (isCalled · token)).or
    ((r.custom.find? (isCalledCustom · token)).map .ofCustom)

def defaultNamespace (r : Registry) : String :=
  r.namespaces.headD "default"

def defaultContext (r : Registry) : String :=
  r.contexts.headD "default"

end Registry
end ClusterNav
