import ClusterNav.Layout.Box
import ClusterNav.Layout.Hints
import ClusterNav.Layout.Page
import ClusterNav.View.Response

/-!
# Choosing a namespace or context

A box with the names to choose from, narrowed down by typing.  The choice goes out as a message; the
host takes it over.
-/

namespace ClusterNav

open Select

/-- Chooses a namespace or a context. -/
structure ScopePicker where
  kind : PickerKind
  /-- The name that is current. -/
  current : String
  list : FilterList
  width : Nat
  height : Nat
deriving DecidableEq, Repr

namespace ScopePicker

def boxWidth : Nat := 48

/-- The names to choose from; among namespaces there is always one for all of them. -/
def choices (kind : PickerKind) (names : List String) : List String :=
  match kind with
  | .namespaces =>
    if names.contains NamespaceScope.allLabel then names else NamespaceScope.allLabel :: names
  | .contexts => names

/-- The picker of some names, with the cursor on the current one. -/
def ofNames (kind : PickerKind) (names : List String) (current : String) : ScopePicker :=
  let list := (FilterList.ofValues (choices kind names)).startFilter
  { kind := kind
    current := current
    list := list.selectFirst fun entry => list.value? entry.index == some current
    width := 80
    height := 20 }

def ofSession (session : Session) (kind : PickerKind) : ScopePicker :=
  match kind with
  | .namespaces => ofNames kind session.registry.namespaces session.ns.label
  | .contexts => ofNames kind session.registry.contexts session.context

variable (v : ScopePicker)

def selected? : Option String :=
  v.list.selectedIndex?.bind v.list.value?

def enter : Response ScopePicker :=
  match v.selected? with
  | some name => { view := v, move := .pop, effect := some (.emit (.selected v.kind name)) }
  | none => { view := v }

/-- The list after a key that moves the cursor or edits the filter. -/
def edit (k : Key) : FilterList :=
  match k.name with
  | "backspace" | "ctrl+h" => v.list.popChar
  | "up" | "down" | "pgup" | "pgdown" | "home" | "end" | "ctrl+u" | "ctrl+d" =>
    v.list.cursorKey k
  | _ =>
    match k.rune? with
    | some c => v.list.pushChar c
    | none => v.list

def key (k : Key) : Response ScopePicker :=
  match k.name with
  | "esc" => { view := v, move := .pop }
  | "enter" => v.enter
  | _ => { view := { v with list := v.edit k } }

def nameLine (name : String) (atCursor : Bool) : Line :=
  { spans :=
      [⟨if name == v.current then "● " else "  ", .colored .accent⟩,
       ⟨name, if atCursor then (Style.plain.withBg .selected).emphasized else .plain⟩] }

def nameLines : List Line :=
  (v.list.pageEntries.zipIdx v.list.pageBounds.1).map fun (entry, position) =>
    v.nameLine ((v.list.value? entry.index).getD "") (position == v.list.cursor)

def body : List Line :=
  let none_ := if v.list.visible.isEmpty then [Line.note "  no matches"] else []
  Box.framed v.kind.title
    ({ spans := Line.prompt "> " v.list.filter } :: v.nameLines ++ none_)
    boxWidth v.width v.height

def footer : List Line :=
  [.note v.list.showing,
   Hint.lineOf [("type", "filter"), ("enter", "select"), ("esc", "cancel")]]

/-- The names on a page: at most twelve, and room for the borders, the prompt and a line to spare. -/
def pageRows (height : Nat) : Nat :=
  min (max (height - 4) 1) 12

def setSize (width height : Nat) : ScopePicker :=
  { v with width := width, height := height, list := v.list.setPerPage (pageRows height) }

end ScopePicker
end ClusterNav
