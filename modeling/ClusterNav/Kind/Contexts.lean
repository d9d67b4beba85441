import ClusterNav.Kind

/-!
# Contexts as a kind
-/

namespace ClusterNav

open Cluster Yaml

namespace Kind

def contextItem (c : Context) : Item where
  name := c.name
  status := "Available"
  ready := "-"
  restarts := "-"
  age := "-"
  kind := "CTX"

def context : Kind where
  name := "contexts"
  tag := "CTX"
  aliases := ["ctx", "context"]
  namespaced := false
  items _ := contexts.map contextItem
  columns :=
    [{ id := "name", name := "NAME", width := 20 },
     { id := "cluster", name := "CLUSTER", width := 20 },
     { id := "user", name := "USER", width := 18 },
     { id := "server", name := "SERVER", width := 34, wideOnly := true }]
  row item :=
    match context? item.name with
    | some c =>
      ((item.row.insert "cluster" c.cluster).insert "user" c.user).insert "server" c.server
    | none => item.row
  events _ := []
  yaml item :=
    let context := context? item.name
    Yaml.write <| .ofFields
      [("name", .text item.name),
       ("context", .ofFields
         [("cluster", .ofText? (context.map (·.cluster))),
          ("user", .ofText? (context.map (·.user)))])]

end Kind
end ClusterNav
