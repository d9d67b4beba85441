import ClusterNav.Kind

/-!
# Services as a kind
-/

namespace ClusterNav

open Cluster Yaml

namespace Kind

def serviceItem (s : Service) : Item where
  name := s.name
  ns := s.ns
  status := "Active"
  ready := "-"
  restarts := "-"
  age := s.age
  kind := "SVC"
  labels := .ofList [("app", s.selector)]

def serviceOf? (item : Item) : Option Service :=
  service? item.ns item.name

/-- The ports of a service, with commas between them. -/
def portText (s : Service) : String :=
  ",".intercalate s.ports

def selectorText (s : Service) : String :=
  s!"app={s.selector}"

/-- What a document says about a service. -/
def serviceSpec (s : Service) : Doc :=
  .ofFields
    [("type", .text s.type), ("clusterIP", .text s.clusterIp), ("ports", .ofTexts s.ports),
     ("selector", .ofFields [("app", .text s.selector)])]

def service : Kind where
  name := "services"
  tag := "SVC"
  hotkey := some 'S'
  aliases := ["svc", "service"]
  items scope := (servicesIn scope).map serviceItem
  columns :=
    [{ id := "name", name := "NAME", width := 28 },
     { id := "type", name := "TYPE", width := 13 },
     { id := "cluster-ip", name := "CLUSTER-IP", width := 14 },
     { id := "ports", name := "PORTS", width := 18 },
     { id := "selector", name := "SELECTOR", width := 20, byDefault := false, wideOnly := true },
     { id := "age", name := "AGE", width := 6 }]
  row item :=
    match serviceOf? item with
    | some s =>
      (((item.row.insert "type" s.type).insert "cluster-ip" s.clusterIp).insert "ports"
        (portText s)).insert "selector" (selectorText s)
    | none => item.row
  detail item :=
    { summary :=
        match serviceOf? item with
        | some s =>
          s!"{s.type} service {s.clusterIp} · {portText s} · selects {selectorText s}"
        | none => s!"{item.name} not found"
      events := occurrenceLines item.ns item.name
      labels := item.labelLines }
  yaml item :=
    resourceDocument "v1" "Service" item
      [("spec", ((serviceOf? item).map serviceSpec).getD .null)]
  describe item :=
    item.describe "Service" <|
      match serviceOf? item with
      | some s =>
        [("Type", s.type), ("IP", s.clusterIp), ("Port", portText s),
         ("Selector", selectorText s)]
      | none => []

end Kind
end ClusterNav
