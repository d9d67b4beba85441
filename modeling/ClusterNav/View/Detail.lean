import ClusterNav.Layout.Hints
import ClusterNav.Layout.Page
import ClusterNav.Text.Occurs
import ClusterNav.View.Response
import ClusterNav.Viewport

/-!
# Detail pages

The status and containers of an item, and its conditions, events and labels: below each other, or
side by side on a wide screen.
-/

namespace ClusterNav

/-- The detail page of an item. -/
structure DetailView where
  kind : Kind
  item : Item
  data : Detail
  viewport : Viewport

namespace DetailView

/-- From this width on, the page has two columns. -/
def twoColumnWidth : Nat := 120

/-- Columns of the container grid: their titles and how to fill them. -/
def gridColumns : List (String × (ContainerRow → String)) :=
  [("NAME", (·.name)), ("IMAGE", (·.image)), ("STATE", (·.state)), ("RESTARTS", (·.restarts)),
   ("REASON", (·.reason))]

/-- The greatest length among a title and values. -/
def longest (title : String) (values : List String) : Nat :=
  (values.map String.length).foldl max title.length

def clamp (low high n : Nat) : Nat :=
  min (max n low) high

/-- The widths of the grid; the last column takes what is left. -/
def gridWidths (rows : List ContainerRow) (width : Nat) : List Nat :=
  let name := clamp 8 24 (longest "NAME" (rows.map (·.name)))
  let image := clamp 12 40 (longest "IMAGE" (rows.map (·.image)))
  let state := clamp 7 12 (longest "STATE" (rows.map (·.state)))
  let restarts := 8
  [name, image, state, restarts, max (width - (name + image + state + restarts + 4)) 6]

/-- The style of a value in the grid: states and reasons have colours. -/
def gridStyle (title value : String) : Style :=
  if title == "STATE" || title == "REASON" then statusStyle value else .plain

def gridRow (widths : List Nat) (row : ContainerRow) : Line :=
  { spans := Table.columns <| (gridColumns.zip widths).map fun (column, width) =>
      let value := column.2 row
      [⟨Text.fit value width, gridStyle column.1 value⟩] }

def gridHeader (widths : List Nat) : Line :=
  .styled (" ".intercalate ((gridColumns.zip widths).map fun (column, width) =>
    Text.fit column.1 width)) (Style.colored .muted).emphasized

def grid (rows : List ContainerRow) (width : Nat) : List Line :=
  let widths := gridWidths rows width
  gridHeader widths :: rows.map (gridRow widths)

def statusLine (item : Item) (summary : String) : Line :=
  { spans :=
      [⟨"Status  ", .colored .muted⟩, ⟨item.status, statusStyle item.status⟩, .raw "  ",
       .raw summary] }

/-- The left column: status and containers. -/
def left (item : Item) (data : Detail) (width : Nat) : List Line :=
  statusLine item data.summary ::
    if data.containers.isEmpty then []
    else .blank :: .heading "Containers" :: grid data.containers width

/-- An entry of a section; warnings and what does not hold stand out. -/
def entryLine (entry : String) : Line :=
  .styled ("  " ++ entry) <|
    if Text.holds entry "Warning" || Text.holds entry "=False" then .colored .warning else .plain

def entrySection (title : String) (entries : List String) : List Line :=
  .heading title :: if entries.isEmpty then [.note "  <none>"] else entries.map entryLine

/-- The right column: conditions, events and labels. -/
def right (data : Detail) : List Line :=
  entrySection "Conditions" data.conditions
    ++ .blank :: entrySection "Events" data.events
    ++ .blank :: entrySection "Labels" data.labels

/-- A row of two columns; at least one space stands between them. -/
def besides (half : Nat) (left right : Line) : Line :=
  { spans := left.spans ++ .raw (Text.spaces (max (half - left.width) 1)) :: right.spans }

def sideBySide (left right : List Line) (half : Nat) : List Line :=
  (List.range (max left.length right.length)).map fun n =>
    besides half (left.getD n .blank) (right.getD n .blank)

def layout (item : Item) (data : Detail) (width : Nat) : List Line :=
  if twoColumnWidth ≤ width then
    sideBySide (left item data (width / 2 - 2)) (right data) (width / 2)
  else left item data width ++ .blank :: right data

def setSize (v : DetailView) (width height : Nat) : DetailView :=
  { v with
    viewport := (v.viewport.setSize width height).setLines (layout v.item v.data width) }

def ofItem (kind : Kind) (item : Item) : DetailView :=
  setSize { kind := kind, item := item, data := kind.detail item, viewport := .unsized } 80 20

variable (v : DetailView)

/-- What the shortcuts of items act on. -/
def selection : Selection :=
  ⟨v.kind, v.item⟩

def key (session : Session) (k : Key) : Response DetailView :=
  if k.name = "esc" then { view := v, move := .pop }
  else
    match v.selection.keyShortcut? session k with
    | some next => { view := v, move := .push next }
    | none => { view := { v with viewport := v.viewport.scrollKey k } }

def footer : List Line :=
  [.note s!"{v.kind.tag} {v.item.name} · {v.viewport.percent}%",
   Hint.lineOf
     [("o", "logs"), ("d", "describe"), ("e", "events"), ("y", "yaml"), ("r", "related"),
      ("esc", "back")]]

end DetailView
end ClusterNav
