import ClusterNav.Cluster.Log
import ClusterNav.Cluster.Occurrence
import ClusterNav.Item
import ClusterNav.Yaml.Doc
import ClusterNav.Yaml.Writer

/-!
# Kinds of resources

A kind says what it is called and everything the views ask of its items: the rows and columns of the
list, the detail page, logs, events, documents.  Most answers have a default, which the kinds of the
registry replace where they know better.
-/

namespace ClusterNav

open Cluster (LogRequest)

/-- A kind of resource. -/
structure Kind where
  /-- The plural name; column choices are stored under it. -/
  name : String
  /-- The short tag of an item's kind. -/
  tag : String
  hotkey : Option Char := none
  aliases : List String := []
  group : String := ""
  version : String := "v1"
  /-- Do the items live in namespaces? -/
  namespaced : Bool := true
  builtin : Bool := true
  items : NamespaceScope → List Item
  sortModes : List SortMode := [.name, .age]
  columns : List Column := Column.standard
  row : Item → Dict String := Item.row
  detail : Item → Detail := fun item =>
    { summary := s!"{tag} {item.name} is {item.status}", labels := item.labelLines }
  logs : Item → LogRequest → List String := fun item _ =>
    [s!"{name} {item.name} does not produce logs"]
  /-- The line of a number in a followed log, where a log can be followed. -/
  followLine? : Item → String → Nat → Option String := fun _ _ _ => none
  events : Item → List String := fun item => Cluster.occurrenceLines item.ns item.name
  yaml : Item → String
  describe : Item → String := fun item => item.describe name []
  /-- The pods among which a log is chosen. -/
  pods : Item → List Item := fun _ => []
  /-- The containers among which a log is chosen. -/
  containers : Item → List String := fun item => (detail item).containers.map (·.name)
  /-- What an empty list says. -/
  emptyMessage? : NamespaceScope → Option String := fun _ => none

namespace Kind

open Yaml (Doc)

/-- The part of a document that tells what an item is called. -/
def metadata (item : Item) : Doc :=
  .ofFields <|
    [("name", .text item.name)]
    ++ (if item.ns.isEmpty then [] else [("namespace", .text item.ns)])
    ++ (if item.labels.isEmpty then [] else [("labels", .ofLabels item.labels)])

def document (item : Item) (fields : List (String × Doc)) : String :=
  Yaml.write (.ofFields (("metadata", metadata item) :: fields))

/-- A document of an interface version and kind. -/
def resourceDocument (apiVersion kind : String) (item : Item) (fields : List (String × Doc)) :
    String :=
  document item (("apiVersion", .text apiVersion) :: ("kind", .text kind) :: fields)

end Kind
end ClusterNav
