import ClusterNav.Layout.Hints
import ClusterNav.Layout.Page
import ClusterNav.Layout.YamlLine
import ClusterNav.Text.Occurs
import ClusterNav.View.Response
import ClusterNav.Viewport

/-!
# Text pages

The events, the document or the description of an item, to be scrolled through.
-/

namespace ClusterNav

/-- A page of text about an item. -/
structure TextView where
  page : TextPage
  kind : Kind
  item : Item
  viewport : Viewport

namespace TextView

/-- The line of an event; warnings stand out. -/
def eventLine (event : String) : Line :=
  if Text.holds event "Warning" then .styled event (.colored .warning) else .ofText event

def eventLines (events : List String) : List Line :=
  if events.isEmpty then [.note "No events found."] else events.map eventLine

def layout (kind : Kind) (item : Item) : TextPage → List Line
  | .yaml => (Text.lines (kind.yaml item)).map YamlLine.highlight
  | .describe => (Text.lines (kind.describe item)).map Line.ofText
  | .events => eventLines (kind.events item)

def ofItem (page : TextPage) (kind : Kind) (item : Item) : TextView where
  page := page
  kind := kind
  item := item
  viewport := .ofLines (layout kind item page)

variable (v : TextView)

def key (k : Key) : Response TextView :=
  if k.name = "esc" then { view := v, move := .pop }
  else { view := { v with viewport := v.viewport.scrollKey k } }

def footer : List Line :=
  [.note <|
     s!"{v.page.title} {v.kind.tag} {v.item.name} · {v.viewport.lines.length} lines · "
       ++ s!"{v.viewport.percent}%",
   Hint.lineOf [("j/k", "scroll"), ("g/G", "top/bottom"), ("esc", "back")]]

def setSize (width height : Nat) : TextView :=
  { v with viewport := v.viewport.setSize width height }

end TextView
end ClusterNav
