import ClusterNav.Age
import ClusterNav.Dict
import ClusterNav.Status
import ClusterNav.Text.Fit

/-!
# Items

An item is one row of a resource list, the same for every kind.  This module also holds the table
columns an item can fill, its detail page, the orders in which lists are sorted and the description
that all kinds share.
-/

namespace ClusterNav

/-- A resource, as lists show it. -/
structure Item where
  name : String := ""
  status : String := ""
  ready : String := ""
  restarts : String := ""
  age : String := ""
  kind : String := ""
  /-- Its namespace; empty for resources of the whole cluster. -/
  ns : String := ""
  labels : Dict String := .empty
deriving DecidableEq, Repr, Inhabited

namespace Item

/-- The labels, one `key=value` a line. -/
def labelLines (item : Item) : List String :=
  item.labels.entries.map fun e => e.1 ++ "=" ++ e.2

/-- The id of the column that shows a label. -/
def labelId (key : String) : String :=
  "label:" ++ key

/-- What an item fills into the columns every kind has. -/
def row (item : Item) : Dict String :=
  let base : Dict String := .ofList
    [("name", item.name), ("namespace", item.ns), ("status", item.status), ("ready", item.ready),
     ("restarts", item.restarts), ("age", item.age), ("kind", item.kind)]
  item.labels.entries.foldl (fun d e => d.insert (labelId e.1) e.2) base

/-- A heading padded to the column where values start, and a value. -/
def field (heading value : String) : String :=
  Text.padRight heading 14 ++ value

/-- The label lines of a description, under one heading. -/
def describedLabels (item : Item) : List String :=
  match item.labelLines with
  | [] => [field "Labels:" "<none>"]
  | first :: rest => field "Labels:" first :: rest.map (field "")

/-- The description of an item of a kind, with further fields at the end. -/
def describe (item : Item) (kind : String) (extra : List (String × String)) : String :=
  "\n".intercalate <|
    [field "Name:" item.name,
     field "Namespace:" (if item.ns.isEmpty then "<cluster>" else item.ns),
     field "Kind:" kind,
     field "Status:" item.status,
     field "Age:" item.age]
    ++ item.describedLabels
    ++ extra.map fun e => field (e.1 ++ ":") e.2

end Item

/-- One container on a detail page. -/
structure ContainerRow where
  name : String := ""
  image : String := ""
  state : String := ""
  restarts : String := ""
  reason : String := ""
deriving DecidableEq, Repr, Inhabited

/-- The detail page of an item. -/
structure Detail where
  summary : String := ""
  containers : List ContainerRow := []
  conditions : List String := []
  events : List String := []
  labels : List String := []
deriving DecidableEq, Repr, Inhabited

/-- A column of a list. -/
structure Column where
  id : String
  name : String
  width : Nat
  /-- Shown unless the user chooses otherwise. -/
  byDefault : Bool := true
  /-- Shown on wide screens only. -/
  wideOnly : Bool := false
deriving DecidableEq, Repr, Inhabited

namespace Column

/-- The column of a label: its key in capitals, between 12 and 20 characters wide. -/
def label (key : String) : Column where
  id := Item.labelId key
  name := Text.asciiUpper key
  width := min 20 (max 12 key.length)
  byDefault := false

/-- The columns of a kind that names none. -/
def standard : List Column :=
  [{ id := "name", name := "NAME", width := 32 },
   { id := "status", name := "STATUS", width := 18 },
   { id := "age", name := "AGE", width := 6 }]

end Column

/-- What a list is sorted by. -/
inductive SortMode
  | name
  | status
  | age
  | kind
  | problem
deriving DecidableEq, Repr, Inhabited

namespace SortMode

def title : SortMode → String
  | .name => "name"
  | .status => "status"
  | .age => "age"
  | .kind => "kind"
  | .problem => "problem"

/-- Compares what a mode sorts by. -/
def compareKey (mode : SortMode) (a b : Item) : Ordering :=
  match mode with
  | .name => .eq
  | .status => compare a.status b.status
  | .age => compare (ageSeconds a.age) (ageSeconds b.age)
  | .kind => compare a.kind b.kind
  | .problem => compare (StatusClass.ofStatus a.status).rank (StatusClass.ofStatus b.status).rank

/-- Is the first item at or before the second?  Ties of the mode go by name. -/
def le (mode : SortMode) (a b : Item) : Bool :=
  ((mode.compareKey a b).then (compare a.name b.name)).isLE

end SortMode

/-- The items in the order of a mode; items that agree keep their places. -/
def sortItems (mode : SortMode) (items : List Item) : List Item :=
  items.mergeSort mode.le

end ClusterNav
