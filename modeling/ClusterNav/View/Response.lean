import ClusterNav.Event
import ClusterNav.Session

/-!
# Responses

A view answers an event with its new state, a move on the stack of views, and at most one effect.  A
move names the view to open by what it shows; building it is left to the stack.
-/

namespace ClusterNav

/-- The pages that show an item as text. -/
inductive TextPage
  | events
  | yaml
  | describe
deriving DecidableEq, Repr

def TextPage.title : TextPage → String
  | .events => "events"
  | .yaml => "yaml"
  | .describe => "describe"

/-- What a column picker chooses among. -/
structure ColumnChoice where
  /-- The name of the kind. -/
  resource : String
  pool : List Column
  /-- The keys of labels that may become columns. -/
  labels : List String
  /-- The ids of the columns shown now. -/
  visible : List String
  /-- Is the namespace column shown whatever is chosen? -/
  lockNamespace : Bool
deriving Repr

/-- A view to open, by what it shows. -/
inductive Destination
  | list (kind : Kind)
  | detail (kind : Kind) (item : Item)
  | text (page : TextPage) (kind : Kind) (item : Item)
  | relations (kind : Kind) (item : Item)
  | pods (kind : Kind) (pods : List Item)
  | containers (kind : Kind) (item : Item) (containers : List String)
  | log (kind : Kind) (item : Item) (container : Option String)
  | columns (choice : ColumnChoice)
  | scope (picker : PickerKind)
  | browser
  | help

/-- What happens to the stack of views. -/
inductive Move
  | stay
  | push (next : Destination)
  | replace (next : Destination)
  | pop

/-- The view that a move opens. -/
def Move.destination? : Move → Option Destination
  | .push next | .replace next => some next
  | .stay | .pop => none

/-- The answer of a view to an event. -/
structure Response (α : Type) where
  view : α
  move : Move := .stay
  effect : Option Effect := none

/-- The answer with its view put into another type. -/
def Response.map {α β : Type} (f : α → β) (r : Response α) : Response β :=
  { view := f r.view, move := r.move, effect := r.effect }

/-- The answer of a view that reads keys and nothing else. -/
def Response.onKey {α : Type} (view : α) (event : Event) (key : Key → Response α) : Response α :=
  match event with
  | .key k => key k
  | _ => { view := view }

/-- An item of a kind, on which the shortcuts of items act. -/
structure Selection where
  kind : Kind
  item : Item

namespace Selection

/-- Where the log of an item is reached: through the choice of a pod, or of a container, as far as
there is a choice. -/
def log (session : Session) (s : Selection) : Destination :=
  match s.kind.pods s.item with
  | p :: q :: rest => .pods ((session.registry.byName? "pods").getD s.kind) (p :: q :: rest)
  | _ =>
    match s.kind.containers s.item with
    | c :: d :: rest => .containers s.kind s.item (c :: d :: rest)
    | containers => .log s.kind s.item containers.head?

def shortcut? (session : Session) (s : Selection) : Char → Option Destination
  | 'y' => some (.text .yaml s.kind s.item)
  | 'd' => some (.text .describe s.kind s.item)
  | 'e' => some (.text .events s.kind s.item)
  | 'o' => some (s.log session)
  | 'r' => some (.relations s.kind s.item)
  | _ => none

def keyShortcut? (session : Session) (s : Selection) (key : Key) : Option Destination :=
  key.rune?.bind (s.shortcut? session)

end Selection
end ClusterNav
