import ClusterNav.Kind

/-!
# Namespaces as a kind
-/

namespace ClusterNav

open Cluster Yaml

namespace Kind

def namespaceItem (name : String) : Item where
  name := name
  status := "Active"
  ready := "-"
  restarts := "-"
  age := if name == "payments" then "6h" else "90d"
  kind := "NS"

def namespaces : Kind where
  name := "namespaces"
  tag := "NS"
  aliases := ["ns", "namespace"]
  namespaced := false
  items _ := Cluster.namespaces.map namespaceItem
  events item := (occurrencesIn (.named item.name)).map (·.line)
  describe item :=
    item.describe "Namespace"
      [("Workloads", toString (workloadsIn (.named item.name)).length)]
  yaml item :=
    resourceDocument "v1" "Namespace" item
      [("status", .ofFields [("phase", .text item.status)])]

end Kind
end ClusterNav
