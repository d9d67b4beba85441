import ClusterNav.Layout.Box
import ClusterNav.Layout.Hints
import ClusterNav.Layout.Page
import ClusterNav.View.Response

/-!
# Choosing columns

The columns of a kind and the labels of its items, to be shown or not.  The name column and, where it
is shown, the namespace column are locked.  What is chosen goes out as a message; the list takes it
over.
-/

namespace ClusterNav

/-- A column that can be chosen. -/
structure ColumnRow where
  id : String
  title : String
  locked : Bool := false
deriving DecidableEq, Repr

/-- A row of the picker. -/
inductive PickerRow
  | heading (title : String)
  | column (row : ColumnRow)
deriving DecidableEq, Repr

namespace PickerRow

/-- The column of a row that can be chosen or not. -/
def free? : PickerRow → Option ColumnRow
  | .column row => if row.locked then none else some row
  | .heading _ => none

/-- Can the cursor stand on the row? -/
def isFree (row : PickerRow) : Bool :=
  row.free?.isSome

/-- Is the column of the row chosen, when these ids are? -/
def isChecked (checked : List String) : PickerRow → Bool
  | .heading _ => false
  | .column row => row.locked || checked.contains row.id

/-- The id of the column of the row. -/
def id? : PickerRow → Option String
  | .heading _ => none
  | .column row => some row.id

end PickerRow

/-- Chooses the columns of a kind. -/
structure ColumnPicker where
  /-- The name of the kind. -/
  resource : String
  rows : List PickerRow
  /-- The ids chosen. -/
  checked : List String
  /-- The ids chosen at first. -/
  opening : List String
  cursor : Nat
  /-- The first row shown. -/
  offset : Nat
  width : Nat
  height : Nat
deriving DecidableEq, Repr

namespace ColumnPicker

/-- The id of the namespace column, which is not a column of the pool. -/
def namespaceId : String := "namespace"

def boxWidth : Nat := 44

def rowsOf (choice : ColumnChoice) : List PickerRow :=
  let locked : List PickerRow :=
    if choice.lockNamespace then
      [.column { id := namespaceId, title := "NAMESPACE", locked := true }]
    else []
  let pool := choice.pool.map fun c =>
    PickerRow.column { id := c.id, title := c.name, locked := c.id == ColumnStore.nameId }
  let labels :=
    if choice.labels.isEmpty then []
    else .heading "Labels" :: choice.labels.map fun key =>
      PickerRow.column { id := Item.labelId key, title := key }
  .heading "Columns" :: locked ++ pool ++ labels

/-- The first row the cursor can stand on. -/
def firstFree? (rows : List PickerRow) : Option Nat :=
  rows.findIdx? PickerRow.isFree

/-- The picker of a choice, with the cursor on the first free row. -/
def ofChoice (choice : ColumnChoice) : ColumnPicker where
  resource := choice.resource
  rows := rowsOf choice
  checked := choice.visible
  opening := choice.visible
  cursor := (firstFree? (rowsOf choice)).getD 0
  offset := 0
  width := 80
  height := 20

variable (v : ColumnPicker)

/-- The rows that fit between the borders. -/
def pageRows : Nat :=
  max (v.height - 2) 1

/-- The first row to show so that the cursor is on the screen.  With the cursor on the first free
row, the headings above it are shown too where there is room. -/
def followedOffset : Nat :=
  let offset :=
    if firstFree? v.rows == some v.cursor && v.cursor < v.pageRows then 0
    else if v.cursor < v.offset then v.cursor
    else if v.offset + v.pageRows ≤ v.cursor then v.cursor + 1 - v.pageRows
    else v.offset
  min offset (v.rows.length - v.pageRows)

/-- Scrolls to the cursor. -/
def follow : ColumnPicker :=
  { v with offset := v.followedOffset }

/-- The nearest free row below a place. -/
def freeBelow? (rows : List PickerRow) (place : Nat) : Option Nat :=
  (firstFree? (rows.drop (place + 1))).map (place + 1 + ·)

/-- The nearest free row above a place. -/
def freeAbove? (rows : List PickerRow) (place : Nat) : Option Nat :=
  (firstFree? (rows.take place).reverse).map ((rows.take place).length - 1 - ·)

/-- Moves the cursor to a place, if there is one. -/
def moveTo : Option Nat → ColumnPicker
  | some place => follow { v with cursor := place }
  | none => v

/-- Chooses the column of an id, or no longer. -/
def toggleId (checked : List String) (id : String) : List String :=
  if checked.contains id then checked.erase id else checked ++ [id]

def toggle : ColumnPicker :=
  match v.rows[v.cursor]?.bind PickerRow.free? with
  | some row => { v with checked := toggleId v.checked row.id }
  | none => v

/-- The ids chosen, in the order of the rows, without the namespace column. -/
def visibleIds : List String :=
  ((v.rows.filter (PickerRow.isChecked v.checked)).filterMap PickerRow.id?).filter
    (· != namespaceId)

def key (k : Key) : Response ColumnPicker :=
  if k.isSpace then { view := v.toggle }
  else
    match k.name with
    | "esc" => { view := v, move := .pop }
    | "enter" =>
      { view := v, move := .pop, effect := some (.emit (.picked v.resource v.visibleIds)) }
    | "r" => { view := { v with checked := v.opening } }
    | "up" | "k" => { view := v.moveTo (freeAbove? v.rows v.cursor) }
    | "down" | "j" => { view := v.moveTo (freeBelow? v.rows v.cursor) }
    | _ => { view := v }

def rowStyle (locked atCursor : Bool) : Style :=
  let style := if locked then Style.colored .muted else .plain
  if atCursor then (style.withBg .selected).emphasized else style

def rowLine (row : PickerRow) (atCursor : Bool) : Line :=
  match row with
  | .heading title => .heading title
  | .column c =>
    let mark := if row.isChecked v.checked then "[x]" else "[ ]"
    let note := if c.locked then " (locked)" else ""
    .styled s!" {mark} {c.title}{note}" (rowStyle c.locked atCursor)

def shownRows : List Line :=
  ((v.rows.zipIdx.drop v.offset).take v.pageRows).map fun (row, place) =>
    v.rowLine row (place == v.cursor)

def body : List Line :=
  Box.framed s!"columns: {v.resource}" v.shownRows boxWidth v.width v.height

def footer : List Line :=
  [.note s!"{v.visibleIds.length} columns selected",
   Hint.lineOf [("space", "toggle"), ("enter", "apply"), ("r", "revert"), ("esc", "cancel")]]

def setSize (width height : Nat) : ColumnPicker :=
  follow { v with width := width, height := height }

end ColumnPicker
end ClusterNav
