import ClusterNav.Kind

/-!
# Nodes as a kind
-/

namespace ClusterNav

open Cluster Yaml

namespace Kind

def nodeItem (n : Cluster.Node) : Item where
  name := n.name
  status := n.status
  ready := "-"
  restarts := "-"
  age := n.age
  kind := "NO"

def node : Kind where
  name := "nodes"
  tag := "NO"
  hotkey := some 'O'
  aliases := ["no", "node"]
  namespaced := false
  items _ := nodes.map nodeItem
  sortModes := [.name, .status, .problem]
  columns :=
    [{ id := "name", name := "NAME", width := 24 },
     { id := "status", name := "STATUS", width := 10 },
     { id := "roles", name := "ROLES", width := 14 },
     { id := "version", name := "VERSION", width := 9 },
     { id := "age", name := "AGE", width := 6 }]
  row item :=
    match node? item.name with
    | some n => (item.row.insert "roles" n.roles).insert "version" n.version
    | none => item.row
  yaml item :=
    let version := ((node? item.name).map (·.version)).getD ""
    resourceDocument "v1" "Node" item
      [("status", .ofFields
         [("nodeInfo", .ofFields [("kubeletVersion", .text version)]),
          ("conditions", .seq
            [.ofFields [("type", .text "Ready"), ("status", .bool (item.status == "Ready"))]])])]

end Kind
end ClusterNav
