import ClusterNav.Layout.Hints
import ClusterNav.Layout.Page
import ClusterNav.View.Response

/-!
# Lists of items

The items of a kind in a table, filtered, sorted and paged.  As the root of the namespace or context
scope a list selects its items instead of opening them.  A list keeps the columns it took from the
store at its last event.
-/

namespace ClusterNav

open Select

/-- What a list is for. -/
inductive ListMode
  | browse
  /-- Choosing a namespace or context; the current one is marked. -/
  | scope (picker : PickerKind) (current : String)
deriving DecidableEq, Repr

/-- A list of items. -/
structure ListView where
  kind : Kind
  mode : ListMode
  /-- The namespace whose items are shown. -/
  ns : NamespaceScope
  items : List Item
  list : FilterList
  columns : List Column
  /-- Were the columns chosen? -/
  customColumns : Bool
  /-- The place of the sort mode among those of the kind. -/
  sortIndex : Nat
  /-- Does the next key jump to a letter? -/
  findArmed : Bool
  width : Nat

namespace ListView

/-- From this width on, columns for wide screens are shown. -/
def wideWidth : Nat := 120

def namespaceColumn : Column := { id := "namespace", name := "NAMESPACE", width := 14 }

variable (v : ListView)

def sortMode : SortMode :=
  v.kind.sortModes[v.sortIndex]?.getD .name

/-- The first item of a list of namespaces, which stands for all of them. -/
def allEntry (kind : Kind) : Item :=
  { name := NamespaceScope.allLabel, status := "-", kind := kind.tag }

/-- The items that the list shows in its namespace and sort mode. -/
def loaded : List Item :=
  let items := sortItems v.sortMode (v.kind.items v.ns)
  match v.mode with
  | .scope .namespaces _ => allEntry v.kind :: items
  | _ => items

/-- Loads the items again. -/
def reload : ListView :=
  { v with items := v.loaded, list := v.list.setValues (v.loaded.map (·.name)) }

def showsNamespace : Bool :=
  v.ns.isAll && v.kind.namespaced && v.mode = .browse

def refreshColumns (store : ColumnStore) : ListView :=
  let columns := store.get v.kind.name v.kind.columns
  { v with
    columns := if v.showsNamespace then namespaceColumn :: columns else columns
    customColumns := store.isCustom v.kind.name }

/-- The list of a kind before its items are loaded. -/
def unloaded (kind : Kind) (mode : ListMode) (ns : NamespaceScope) : ListView where
  kind := kind
  mode := mode
  ns := ns
  items := []
  list := .ofValues []
  columns := []
  customColumns := false
  sortIndex := 0
  findArmed := false
  width := 80

/-- The list of a kind in a session. -/
def ofKind (session : Session) (kind : Kind) : ListView :=
  ((unloaded kind .browse session.ns).reload).refreshColumns session.columns

def item? (entry : FilterMatch) : Option Item :=
  v.items[entry.index]?

/-- Does a match stand for an item of this name? -/
def isNamed (name : String) (entry : FilterMatch) : Bool :=
  (v.item? entry).any (·.name == name)

/-- Puts the cursor on the first visible item of a name. -/
def selectName (name : String) : ListView :=
  { v with list := v.list.selectFirst (v.isNamed name) }

/-- The root list of the namespace or context scope, with the cursor on the current entry. -/
def ofScope (session : Session) (picker : PickerKind) : ListView :=
  let kind := match picker with
    | .namespaces => session.registry.namespaceKind
    | .contexts => session.registry.contextKind
  let current := match picker with
    | .namespaces => session.ns.label
    | .contexts => session.context
  let view := ((unloaded kind (.scope picker current) session.ns).reload)
  (view.refreshColumns session.columns).selectName current

def selected? : Option Item :=
  v.list.selectedIndex?.bind fun index => v.items[index]?

/-- What the shortcuts of items act on. -/
def selection? : Option Selection :=
  v.selected?.map fun item => ⟨v.kind, item⟩

def shownColumns : List Column :=
  v.columns.filter fun c => !c.wideOnly || wideWidth ≤ v.width

/-- Sorts by the next mode and keeps the cursor on the item. -/
def cycleSort : ListView :=
  if v.kind.sortModes.isEmpty then v
  else
    let sorted := { v with sortIndex := (v.sortIndex + 1) % v.kind.sortModes.length }.reload
    match v.selected? with
    | some item => sorted.selectName item.name
    | none => sorted

/-- The keys of all labels, each once, in order. -/
def labelKeys : List String :=
  (Dict.ofList ((v.items.flatMap fun item => item.labels.keys).map fun key => (key, ()))).keys

/-- What the column picker of the list chooses among. -/
def columnChoice : ColumnChoice where
  resource := v.kind.name
  pool := v.kind.columns
  labels := v.labelKeys
  visible := v.columns.map (·.id)
  lockNamespace := v.showsNamespace

/-- Opens the item under the cursor, or selects it. -/
def enter : Response ListView :=
  match v.selected?, v.mode with
  | none, _ => { view := v }
  | some item, .browse => { view := v, move := .push (.detail v.kind item) }
  | some item, .scope picker _ =>
    { view := v, effect := some (.emit (.selected picker item.name)) }

/-- Jumps to the letter of a key, after which keys have their usual meaning. -/
def find (key : Key) : ListView :=
  { v with
    findArmed := false
    list := match key.rune? with
      | some c => v.list.jumpToInitial c
      | none => v.list }

/-- Removes the filter, or else leaves. -/
def leave : Response ListView :=
  if v.list.isFiltered then { view := { v with list := v.list.clearFilter } }
  else { view := v, move := .pop }

/-- A key that moves the cursor or is a shortcut of items. -/
def otherKey (session : Session) (key : Key) : Response ListView :=
  match v.list.cursorKey? key with
  | some list => { view := { v with list := list } }
  | none =>
    match v.selection?.bind fun s => s.keyShortcut? session key with
    | some next => { view := v, move := .push next }
    | none => { view := v }

def key (session : Session) (k : Key) : Response ListView :=
  if v.list.isFiltering then { view := { v with list := v.list.editKey k } }
  else if v.findArmed then { view := v.find k }
  else
    match k.name with
    | "/" => { view := { v with list := v.list.startFilter } }
    | "f" => { view := { v with findArmed := true } }
    | "s" => { view := v.cycleSort }
    | "c" => { view := v, move := .push (.columns v.columnChoice) }
    | "esc" => v.leave
    | "enter" | "l" | "right" => v.enter
    | _ => v.otherKey session k

/-- Follows the session to another namespace. -/
def syncNamespace (ns : NamespaceScope) : ListView :=
  if v.ns ≠ ns ∧ v.mode = .browse then { v with ns := ns }.reload else v

/-- The column store after an event: a choice of columns for this kind is taken over. -/
def storeAfter (event : Event) (store : ColumnStore) : ColumnStore :=
  match event with
  | .message (.picked resource ids) =>
    if resource = v.kind.name then store.pick resource v.kind.columns ids else store
  | _ => store

/-- The response to an event, in a session whose column store has seen the event. -/
def respond (session : Session) (event : Event) : Response ListView :=
  let view := v.syncNamespace session.ns
  let response := match event with
    | .key k => view.key session k
    | _ => { view := view }
  response.map (·.refreshColumns session.columns)

/-- Is a prompt open, so that keys are text? -/
def takesAllKeys : Bool :=
  v.list.isFiltering || v.findArmed

def nameCell (text : String) (width : Nat) (item : Item) (entry : FilterMatch) (hint : Bool) :
    Cell :=
  let current := match v.mode with
    | .browse => false
    | .scope _ current => item.name == current
  { text := text
    width := width
    style := if current then (Style.colored .accent).emphasized else .colored .white
    marks := entry.positions
    hint := if hint then some 0 else none }

/-- The cell of an item in a column. -/
def cell (item : Item) (row : Dict String) (entry : FilterMatch) (hint : Bool) (column : Column) :
    Cell :=
  let text := (row.get? column.id).getD "-"
  match column.id with
  | "name" => v.nameCell text column.width item entry hint
  | "status" => { text := text, width := column.width, style := statusStyle item.status }
  | "namespace" | "age" => .muted text column.width
  | _ => { text := text, width := column.width }

def cells (item : Item) (entry : FilterMatch) (hint : Bool) : List Cell :=
  v.shownColumns.map (v.cell item (v.kind.row item) entry hint)

def emptyNote : String :=
  if v.list.isFiltered then s!"No items match \"{v.list.filter}\"."
  else
    ((v.kind.emptyMessage? v.ns).filter fun _ => v.items.isEmpty).getD "No items."

def body : List Line :=
  Table.header (v.shownColumns.map fun c => (c.name, c.width)) ::
    if v.list.visible.isEmpty then [.note v.emptyNote]
    else
      v.list.rows fun entry first =>
        (v.item? entry).map fun item => v.cells item entry (v.findArmed && first)

def status : Line :=
  if v.list.isFiltering then
    { spans := Line.prompt "/" v.list.filter ++ [⟨"  " ++ v.list.showing, .colored .muted⟩] }
  else if v.findArmed then
    .styled "find: press the first letter of a name" (.colored .accent)
  else
    .note <|
      s!"{v.list.showing} · sort: {v.sortMode.title}"
        ++ (if v.list.isFiltered then s!" · filter: {v.list.filter}" else "")
        ++ (if v.customColumns then " · columns: custom" else "")

def hints : ListMode → List (String × String)
  | .browse =>
    [("enter", "open"), ("/", "filter"), ("f", "find"), ("s", "sort"), ("c", "columns"),
     ("o", "logs"), ("r", "related"), ("?", "help")]
  | .scope _ _ =>
    [("enter", "select"), ("/", "filter"), ("y", "yaml"), ("←", "next scope"), ("esc", "back")]

def footer : List Line :=
  [v.status, Hint.lineOf (hints v.mode)]

/-- Fits the list into an area; the header takes one row. -/
def setSize (width height : Nat) : ListView :=
  { v with width := width, list := v.list.setPerPage (max (height - 1) 1) }

def nextCrumb? : Option String :=
  match v.mode with
  | .browse => v.selected?.map (·.name)
  | .scope _ _ => none

end ListView
end ClusterNav
