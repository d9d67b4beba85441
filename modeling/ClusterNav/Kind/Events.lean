import ClusterNav.Kind

/-!
# Events as a kind
-/

namespace ClusterNav

open Cluster Yaml

namespace Kind

def eventItem (o : Occurrence) : Item where
  name := o.name
  ns := o.ns
  status := o.severity
  ready := o.reason
  restarts := "-"
  age := o.age
  kind := "EV"

/-- The report an item stands for: the first of its name. -/
def occurrenceOf? (item : Item) : Option Occurrence :=
  (occurrencesIn (.named item.ns)).find? (·.name == item.name)

def event : Kind where
  name := "events"
  tag := "EV"
  hotkey := some 'E'
  aliases := ["ev", "event"]
  items scope := (occurrencesIn scope).map eventItem
  sortModes := [.age, .name, .status]
  columns :=
    [{ id := "name", name := "NAME", width := 36 },
     { id := "status", name := "TYPE", width := 8 },
     { id := "reason", name := "REASON", width := 18 },
     { id := "age", name := "AGE", width := 6 },
     { id := "message", name := "MESSAGE", width := 50, wideOnly := true }]
  row item :=
    let row := item.row.insert "reason" item.ready
    match occurrenceOf? item with
    | some o => row.insert "message" o.message
    | none => row
  events item := (occurrenceOf? item).toList.map (·.line)
  yaml item :=
    let occurrence := occurrenceOf? item
    let object (o : Occurrence) : Doc :=
      .ofFields [("kind", .text o.objectKind), ("name", .text o.object)]
    resourceDocument "v1" "Event" item
      [("type", .text item.status), ("reason", .text item.ready),
       ("involvedObject", (occurrence.map object).getD .null),
       ("message", .ofText? (occurrence.map (·.message)))]

end Kind
end ClusterNav
