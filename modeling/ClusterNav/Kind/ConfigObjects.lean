import ClusterNav.Kind

/-!
# Config maps and secrets as kinds

The two differ in what they are called and in whether values may be shown.
-/

namespace ClusterNav

open Cluster Yaml

namespace Kind

/-- What the documents call config maps and secrets. -/
def configApiKind (isSecret : Bool) : String :=
  if isSecret then "Secret" else "ConfigMap"

/-- The tag of config maps and secrets. -/
def configTag (isSecret : Bool) : String :=
  if isSecret then "SEC" else "CM"

/-- A config map or secret as an item. -/
def configItem (o : ConfigObject) : Item where
  name := o.name
  ns := o.ns
  status := "Active"
  ready := toString o.keys.length
  restarts := "-"
  age := o.age
  kind := configTag o.isSecret

/-- The keys of the object of an item. -/
def configKeys (isSecret : Bool) (item : Item) : List String :=
  ((configObject? item.ns item.name isSecret).map (·.keys)).getD []

/-- The values of the object, none of which are shown. -/
def configData (isSecret : Bool) (item : Item) : Doc :=
  let value := if isSecret then "<redacted>" else "..."
  .ofFields ((configKeys isSecret item).map fun key => (key, .text value))

/-- Config maps, or secrets. -/
def configObjects (isSecret : Bool) : Kind where
  name := if isSecret then "secrets" else "configmaps"
  tag := configTag isSecret
  hotkey := some (if isSecret then 'K' else 'C')
  aliases := if isSecret then ["secret", "sec"] else ["cm", "configmap", "config"]
  items scope := (configObjectsIn scope isSecret).map configItem
  columns :=
    [{ id := "name", name := "NAME", width := 28 },
     { id := "data", name := "DATA", width := 5 },
     { id := "consumers", name := "USED BY", width := 28 },
     { id := "age", name := "AGE", width := 6 }]
  row item :=
    let row := item.row.insert "data" item.ready
    match configObject? item.ns item.name isSecret with
    | some o => row.insert "consumers" (",".intercalate o.consumers)
    | none => row
  detail item :=
    { summary :=
        s!"{configApiKind isSecret} {item.name} · keys: "
          ++ ", ".intercalate (configKeys isSecret item)
      events := occurrenceLines item.ns item.name
      labels := item.labelLines }
  yaml item :=
    resourceDocument "v1" (configApiKind isSecret) item [("data", configData isSecret item)]
  describe item :=
    item.describe (configApiKind isSecret)
      [("Data", ", ".intercalate (configKeys isSecret item))]

def configMap : Kind := configObjects false

def secret : Kind := configObjects true

end Kind
end ClusterNav
