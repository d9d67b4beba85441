import ClusterNav.View.Browser
import ClusterNav.View.ColumnPicker
import ClusterNav.View.Detail
import ClusterNav.View.Help
import ClusterNav.View.List
import ClusterNav.View.Log
import ClusterNav.View.LogPicker
import ClusterNav.View.Relations
import ClusterNav.View.ScopePicker
import ClusterNav.View.TextPage

/-!
# Views

The views that can stand on the stack, and what the stack needs to know of each: its lines, its
answer to an event, how it takes a size, and whether it wants all keys for itself.
-/

namespace ClusterNav

/-- A view. -/
inductive View
  | list (v : ListView)
  | detail (v : DetailView)
  | text (v : TextView)
  | relations (v : RelationView)
  | pods (v : PodPicker)
  | containers (v : ContainerPicker)
  | log (v : LogView)
  | columns (v : ColumnPicker)
  | scope (v : ScopePicker)
  | browser (v : BrowserView)
  | help (v : HelpView)

namespace View

/-- The view of a destination, in a session. -/
def ofDestination (session : Session) : Destination → View
  | .list kind => .list (.ofKind session kind)
  | .detail kind item => .detail (.ofItem kind item)
  | .text page kind item => .text (.ofItem page kind item)
  | .relations kind item => .relations (.ofItem session kind item)
  | .pods kind items => .pods (.ofPods kind items)
  | .containers kind item names => .containers (.ofContainers kind item names)
  | .log kind item container => .log (.ofItem kind item container)
  | .columns choice => .columns (.ofChoice choice)
  | .scope picker => .scope (.ofSession session picker)
  | .browser => .browser (.ofSession session)
  | .help => .help .page

def body : View → List Line
  | .list v => v.body
  | .detail v => v.viewport.visible
  | .text v => v.viewport.visible
  | .relations v => v.body
  | .pods v => v.body
  | .containers v => v.body
  | .log v => v.viewport.visible
  | .columns v => v.body
  | .scope v => v.body
  | .browser v => v.body
  | .help v => v.viewport.visible

/-- The lines below a view: its status and its keys. -/
def footer : View → List Line
  | .list v => v.footer
  | .detail v => v.footer
  | .text v => v.footer
  | .relations v => v.footer
  | .pods v => LogPicker.footer v.list "pod"
  | .containers v => LogPicker.footer v.list "container"
  | .log v => v.footer
  | .columns v => v.footer
  | .scope v => v.footer
  | .browser v => v.footer
  | .help v => v.footer

/-- What a view is called in the trail of views. -/
def crumb : View → String
  | .list v => v.kind.name
  | .detail v => v.item.name
  | .text v => v.page.title
  | .relations _ => "related"
  | .pods _ => "pod"
  | .containers _ => "container"
  | .log _ => "logs"
  | .columns _ => "columns"
  | .scope v => v.kind.title
  | .browser _ => "resources"
  | .help _ => "help"

/-- What opening the selection would add to the trail. -/
def nextCrumb? : View → Option String
  | .list v => v.nextCrumb?
  | .detail _ => some "logs"
  | .relations v => v.selected?.map (·.relation.title)
  | .pods v => v.selected?.map (·.name)
  | .containers _ => some "logs"
  | .browser v => v.selected?.map (·.name)
  | .text _ | .log _ | .columns _ | .scope _ | .help _ => none

/-- The item that the shortcuts of items act on. -/
def selection? : View → Option Selection
  | .list v => v.selection?
  | .detail v => some v.selection
  | _ => none

/-- Does the view want all keys for itself? -/
def takesAllKeys : View → Bool
  | .list v => v.takesAllKeys
  | .pods v => v.list.isFiltering
  | .containers v => v.list.isFiltering
  | .log v => v.takesAllKeys
  | .columns _ | .scope _ => true
  | .browser v => v.takesAllKeys
  | .detail _ | .text _ | .relations _ | .help _ => false

def setSize (width height : Nat) : View → View
  | .list v => .list (v.setSize width height)
  | .detail v => .detail (v.setSize width height)
  | .text v => .text (v.setSize width height)
  | .relations v => .relations { v with list := LogPicker.fitList v.list height }
  | .pods v => .pods { v with list := LogPicker.fitList v.list height }
  | .containers v => .containers { v with list := LogPicker.fitList v.list height }
  | .log v => .log (v.setSize width height)
  | .columns v => .columns (v.setSize width height)
  | .scope v => .scope (v.setSize width height)
  | .browser v => .browser { v with list := LogPicker.fitList v.list height }
  | .help v => .help { v with viewport := v.viewport.setSize width height }

/-- The column store after a view has seen an event. -/
def storeAfter (event : Event) (store : ColumnStore) : View → ColumnStore
  | .list v => v.storeAfter event store
  | _ => store

/-- The response of a view to an event, in a session whose column store has seen the event.  Lists
and logs read messages; all other views read keys alone. -/
def respond (session : Session) (event : Event) : View → Response View
  | .list v => (v.respond session event).map .list
  | .detail v => (Response.onKey v event (v.key session)).map .detail
  | .text v => (Response.onKey v event v.key).map .text
  | .relations v => (Response.onKey v event (v.key session)).map .relations
  | .pods v => (Response.onKey v event v.key).map .pods
  | .containers v => (Response.onKey v event v.key).map .containers
  | .log v => (v.respond event).map .log
  | .columns v => (Response.onKey v event v.key).map .columns
  | .scope v => (Response.onKey v event v.key).map .scope
  | .browser v => (Response.onKey v event v.key).map .browser
  | .help v => (Response.onKey v event v.key).map .help

end View
end ClusterNav
