import ClusterNav.Layout.Hints
import ClusterNav.Layout.Page
import ClusterNav.Relation
import ClusterNav.View.Response

/-!
# Relations of an item

The relations of an item, each with the number of items it leads to.
-/

namespace ClusterNav

open Select

/-- The table of an item's relations. -/
structure RelationView where
  kind : Kind
  item : Item
  entries : List RelationEntry
  list : FilterList

namespace RelationView

def ofItem (session : Session) (kind : Kind) (item : Item) : RelationView :=
  let entries := relationEntries session.registry kind item
  { kind := kind
    item := item
    entries := entries
    list := .ofValues (entries.map (·.relation.title)) }

variable (v : RelationView)

def selected? : Option RelationEntry :=
  v.list.selectedIndex?.bind fun index => v.entries[index]?

/-- Where a relation leads: to the events of the item, or to a list of its own. -/
def next (session : Session) (relation : Relation) : Destination :=
  if relation = .events then .text .events v.kind v.item
  else .list (.ofRelation session.registry relation v.item)

def key (session : Session) (k : Key) : Response RelationView :=
  match k.name with
  | "esc" => { view := v, move := .pop }
  | "enter" | "l" | "right" =>
    match v.selected? with
    | some entry => { view := v, move := .push (v.next session entry.relation) }
    | none => { view := v }
  | _ => { view := { v with list := v.list.cursorKey k } }

def cells (entry : RelationEntry) : List Cell :=
  [{ text := entry.relation.title, width := 12 },
   { text := toString entry.count, width := 5
     style := .colored (if entry.count = 0 then .muted else .white) },
   .muted entry.description 48]

def body : List Line :=
  Table.header [("RELATION", 12), ("COUNT", 5), ("DESCRIPTION", 48)] ::
    v.list.rows fun entry _ => v.entries[entry.index]?.map cells

def footer : List Line :=
  [.note s!"Related to {v.item.name} · {v.list.showing}",
   Hint.lineOf [("enter", "open"), ("j/k", "move"), ("esc", "back")]]

end RelationView
end ClusterNav
