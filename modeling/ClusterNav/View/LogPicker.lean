import ClusterNav.Layout.Hints
import ClusterNav.Layout.Page
import ClusterNav.View.Response

/-!
# Choosing a log

On the way to a log a pod is chosen among several, and then a container.  Each choice replaces the
picker, so that leaving the log leads back to where the way began.
-/

namespace ClusterNav

open Select

namespace LogPicker

/-- What a key does to the list of a picker; nothing when the key opens the row under the cursor. -/
def key? (list : FilterList) (k : Key) : Option (FilterList × Move) :=
  if list.isFiltering then some (list.editKey k, .stay)
  else
    match k.name with
    | "esc" => some (if list.isFiltered then (list.clearFilter, .stay) else (list, .pop))
    | "/" => some (list.startFilter, .stay)
    | "enter" | "l" | "right" => none
    | _ => some (list.cursorKey k, .stay)

def footer (list : FilterList) (noun : String) : List Line :=
  [.note <|
     if list.isFiltering then s!"/{list.filter}▏  {list.showing}"
     else s!"Pick a {noun} · {list.showing}",
   Hint.lineOf [("enter", "logs"), ("/", "filter"), ("esc", "back")]]

/-- Fits a list into an area; the header takes one row. -/
def fitList (list : FilterList) (height : Nat) : FilterList :=
  list.setPerPage (max (height - 1) 1)

end LogPicker

/-- Chooses a pod. -/
structure PodPicker where
  /-- The kind of pods. -/
  kind : Kind
  pods : List Item
  list : FilterList

namespace PodPicker

def ofPods (kind : Kind) (pods : List Item) : PodPicker where
  kind := kind
  pods := pods
  list := .ofValues (pods.map (·.name))

variable (v : PodPicker)

def selected? : Option Item :=
  v.list.selectedIndex?.bind fun index => v.pods[index]?

/-- Goes on to the containers of a pod, or to its log where there is no choice. -/
def next (pod : Item) : Destination :=
  match v.kind.containers pod with
  | c :: d :: rest => .containers v.kind pod (c :: d :: rest)
  | containers => .log v.kind pod containers.head?

def key (k : Key) : Response PodPicker :=
  match LogPicker.key? v.list k with
  | some (list, move) => { view := { v with list := list }, move := move }
  | none =>
    match v.selected? with
    | some pod => { view := v, move := .replace (v.next pod) }
    | none => { view := v }

def cells (pod : Item) (entry : FilterMatch) : List Cell :=
  [{ text := pod.name, width := 40, marks := entry.positions }, .status pod.status 18,
   { text := pod.ready, width := 6 }, { text := pod.restarts, width := 8 }]

def body : List Line :=
  Table.header [("NAME", 40), ("STATUS", 18), ("READY", 6), ("RESTARTS", 8)] ::
    v.list.rows fun entry _ => v.pods[entry.index]?.map fun pod => cells pod entry

end PodPicker

/-- Chooses a container. -/
structure ContainerPicker where
  kind : Kind
  /-- The item whose container is chosen. -/
  item : Item
  containers : List String
  list : FilterList

namespace ContainerPicker

def ofContainers (kind : Kind) (item : Item) (containers : List String) : ContainerPicker where
  kind := kind
  item := item
  containers := containers
  list := .ofValues containers

variable (v : ContainerPicker)

def selected? : Option String :=
  v.list.selectedIndex?.bind fun index => v.containers[index]?

def key (k : Key) : Response ContainerPicker :=
  match LogPicker.key? v.list k with
  | some (list, move) => { view := { v with list := list }, move := move }
  | none =>
    match v.selected? with
    | some container => { view := v, move := .replace (.log v.kind v.item (some container)) }
    | none => { view := v }

def body : List Line :=
  Table.header [("CONTAINER", 32)] ::
    v.list.rows fun entry _ =>
      v.containers[entry.index]?.map fun name =>
        [{ text := name, width := 32, marks := entry.positions }]

end ContainerPicker
end ClusterNav
