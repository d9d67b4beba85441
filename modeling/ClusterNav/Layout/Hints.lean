import ClusterNav.Style

/-!
# Key hints

The last line of every footer: the keys of a view, each with what it does.
-/

namespace ClusterNav

/-- A key and what it does. -/
structure Hint where
  key : String
  action : String
deriving DecidableEq, Repr

namespace Hint

def spans (h : Hint) : List Span :=
  [⟨h.key, .colored .accent⟩, ⟨" " ++ h.action, .colored .muted⟩]

def separator : Span := ⟨" · ", .colored .muted⟩

def line (hints : List Hint) : Line :=
  { spans := (List.intersperse [separator] (hints.map spans)).flatten }

/-- A line of hints from pairs of a key and what it does. -/
def lineOf (hints : List (String × String)) : Line :=
  line (hints.map fun h => ⟨h.1, h.2⟩)

end Hint
end ClusterNav
