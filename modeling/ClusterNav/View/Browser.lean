import ClusterNav.Layout.Hints
import ClusterNav.Layout.Page
import ClusterNav.View.Response

/-!
# Browsing all kinds

The kinds of the registry and the custom resources in one table, from which any of them is opened.
-/

namespace ClusterNav

open Select

/-- The table of kinds. -/
structure BrowserView where
  kinds : List Kind
  list : FilterList
  /-- Does the next key jump to a letter? -/
  findArmed : Bool

namespace BrowserView

/-- Does the first kind come before the second or at the same place?  Built-in kinds come first,
and names decide between kinds alike. -/
def le (a b : Kind) : Bool :=
  ((compare b.builtin a.builtin).then (compare a.name b.name)).isLE

/-- All kinds of a registry, custom resources included, in the order of the table. -/
def sortedKinds (r : Registry) : List Kind :=
  (r.kinds ++ r.custom.map Kind.ofCustom).mergeSort le

def ofSession (session : Session) : BrowserView :=
  let kinds := sortedKinds session.registry
  { kinds := kinds, list := .ofValues (kinds.map (·.name)), findArmed := false }

variable (v : BrowserView)

def selected? : Option Kind :=
  v.list.selectedIndex?.bind fun index => v.kinds[index]?

/-- Jumps to the letter of a key, after which keys have their usual meaning. -/
def find (key : Key) : BrowserView :=
  { v with
    findArmed := false
    list := match key.rune? with
      | some c => v.list.jumpToInitial c
      | none => v.list }

def enter : Response BrowserView :=
  match v.selected? with
  | some kind => { view := v, move := .push (.list kind) }
  | none => { view := v }

/-- Removes the filter, or else leaves. -/
def leave : Response BrowserView :=
  if v.list.isFiltered then { view := { v with list := v.list.clearFilter } }
  else { view := v, move := .pop }

def key (k : Key) : Response BrowserView :=
  if v.list.isFiltering then { view := { v with list := v.list.editKey k } }
  else if v.findArmed then { view := v.find k }
  else
    match k.name with
    | "esc" => v.leave
    | "/" => { view := { v with list := v.list.startFilter } }
    | "f" => { view := { v with findArmed := true } }
    | "enter" | "l" | "right" => v.enter
    | _ => { view := { v with list := v.list.cursorKey k } }

/-- Is a prompt open, so that keys are text? -/
def takesAllKeys : Bool :=
  v.list.isFiltering || v.findArmed

/-- The cell of a source: built in, or defined in the cluster. -/
def sourceCell (builtin : Bool) : Cell where
  text := if builtin then "built-in" else "crd"
  width := 9
  style := .colored (if builtin then .white else .accent)

def cells (kind : Kind) (entry : FilterMatch) (hint : Bool) : List Cell :=
  [{ text := kind.name, width := 26, marks := entry.positions
     hint := if hint then some 0 else none },
   .muted (if kind.group.isEmpty then "core" else kind.group) 28,
   { text := kind.version, width := 8 },
   { text := if kind.namespaced then "Namespaced" else "Cluster", width := 10 },
   sourceCell kind.builtin,
   { text := (kind.hotkey.map Char.toString).getD "-", width := 3, style := .colored .accent }]

def body : List Line :=
  Table.header
      [("KIND", 26), ("GROUP", 28), ("VERSION", 8), ("SCOPE", 10), ("SOURCE", 9), ("KEY", 3)] ::
    (v.list.rows fun entry first =>
      v.kinds[entry.index]?.map fun kind => cells kind entry (v.findArmed && first))
    ++ if v.list.visible.isEmpty then [.note s!"No kinds match \"{v.list.filter}\"."] else []

def footer : List Line :=
  [.note <|
     if v.list.isFiltering then s!"/{v.list.filter}▏  {v.list.showing}"
     else if v.findArmed then "find: press a letter to jump"
     else v.list.showing,
   Hint.lineOf [("enter", "open"), ("/", "filter"), ("f", "find"), ("esc", "back")]]

end BrowserView
end ClusterNav
