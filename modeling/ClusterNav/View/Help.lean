import ClusterNav.Layout.Hints
import ClusterNav.Layout.Page
import ClusterNav.Text.Fit
import ClusterNav.View.Response
import ClusterNav.Viewport

/-!
# Help

All keys and what they do, by the view they belong to.
-/

namespace ClusterNav

/-- The help page. -/
structure HelpView where
  viewport : Viewport

namespace HelpView

/-- The keys of each part of the program. -/
def sections : List (String × List (String × String)) :=
  [("Global",
     [("q, ctrl+c", "quit"),
      ("left, backspace", "back; at the root, cycle namespace and context scope"),
      ("space", "page down"),
      ("W P D S C K V O E", "jump to a resource kind"),
      ("n", "pick namespace"),
      ("x", "pick context"),
      (":", "browse every resource kind"),
      ("?", "this help")]),
   ("Lists",
     [("j/k, up/down", "move"),
      ("g/G, home/end", "first / last"),
      ("ctrl+u/ctrl+d", "page up / down"),
      ("enter, l, right", "open"),
      ("/", "filter, esc clears"),
      ("f", "find: jump to the next letter typed"),
      ("s", "cycle sort mode"),
      ("c", "choose columns"),
      ("y d e o r", "yaml, describe, events, logs, related")]),
   ("Detail",
     [("o", "logs"),
      ("d", "describe"),
      ("e", "events"),
      ("y", "yaml"),
      ("r", "related resources")]),
   ("Logs",
     [("f", "follow new lines"),
      ("w", "wrap long lines"),
      ("t", "toggle previous container"),
      ("[ ]", "narrow / widen the since window"),
      ("/", "search, enter reports matches")]),
   ("Pickers",
     [("type", "filter namespaces and contexts"),
      ("space", "toggle a column"),
      ("r", "revert column changes"),
      ("enter", "apply"),
      ("esc", "cancel")])]

def bindingLine (keys action : String) : Line :=
  { spans := [⟨"  " ++ Text.padRight keys 20, .colored .accent⟩, .raw action] }

def sectionLines (s : String × List (String × String)) : List Line :=
  .heading s.1 :: s.2.map fun binding => bindingLine binding.1 binding.2

/-- The lines of the page, with a blank line between two sections. -/
def layout : List Line :=
  (List.intersperse [Line.blank] (sections.map sectionLines)).flatten

def page : HelpView :=
  { viewport := .ofLines layout }

variable (v : HelpView)

def key (k : Key) : Response HelpView :=
  if k.isAny ["esc", "?"] then { view := v, move := .pop }
  else { view := { v with viewport := v.viewport.scrollKey k } }

def footer : List Line :=
  [.note s!"{v.viewport.percent}%", Hint.lineOf [("j/k", "scroll"), ("esc", "close")]]

end HelpView
end ClusterNav
