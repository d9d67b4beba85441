import ClusterNav.Kind

/-!
# Volume claims as a kind
-/

namespace ClusterNav

open Cluster Yaml

namespace Kind

def claimItem (c : VolumeClaim) : Item where
  name := c.name
  ns := c.ns
  status := c.status
  ready := c.capacity
  restarts := "-"
  age := c.age
  kind := "PVC"
  labels := .ofList [("app", c.mountedBy)]

def volumeClaim : Kind where
  name := "persistentvolumeclaims"
  tag := "PVC"
  hotkey := some 'V'
  aliases := ["pvc", "pvcs", "claims"]
  items scope := (volumeClaimsIn scope).map claimItem
  sortModes := [.name, .status, .age]
  columns :=
    [{ id := "name", name := "NAME", width := 28 },
     { id := "status", name := "STATUS", width := 10 },
     { id := "capacity", name := "CAPACITY", width := 9 },
     { id := "storageclass", name := "STORAGECLASS", width := 13 },
     { id := "age", name := "AGE", width := 6 }]
  row item :=
    let row := item.row.insert "capacity" item.ready
    match volumeClaim? item.ns item.name with
    | some c => row.insert "storageclass" c.storageClass
    | none => row
  yaml item :=
    let storageClass := ((volumeClaim? item.ns item.name).map (·.storageClass)).getD ""
    resourceDocument "v1" "PersistentVolumeClaim" item
      [("spec", .ofFields
         [("storageClassName", .text storageClass),
          ("resources", .ofFields [("requests", .ofFields [("storage", .text item.ready)])])]),
       ("status", .ofFields [("phase", .text item.status)])]

end Kind
end ClusterNav
