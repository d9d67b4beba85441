import ClusterNav.Layout.Frame
import ClusterNav.Text.Quoted
import ClusterNav.View

/-!
# The host

The host owns the session, the root view with the stack of views above it, and the roots it left when
the scope was widened.  It reads global keys, hands all others to the top view and carries out the
moves the view asks for.
-/

namespace ClusterNav

/-- A root that was left for a wider scope. -/
structure SavedRoot where
  scope : Scope
  root : View

/-- The state of the navigator. -/
structure Host where
  session : Session
  root : View
  /-- The views above the root, the top first. -/
  stack : List View
  /-- The kind of the root list in the resources scope. -/
  rootKind : Kind
  scope : Scope
  /-- The roots left for wider scopes, the last first. -/
  history : List SavedRoot
  width : Nat
  height : Nat
  /-- What is said in the banner; no text means no banner. -/
  notice : String

namespace Host

/-- A host on the list of a kind. -/
def ofKind (session : Session) (kind : Kind) : Host where
  session := session
  root := .list (.ofKind session kind)
  stack := []
  rootKind := kind
  scope := .resources
  history := []
  width := 0
  height := 0
  notice := ""

variable (h : Host)

def top : View :=
  h.stack.headD h.root

def depth : Nat :=
  1 + h.stack.length

def withTop (v : View) : Host :=
  match h.stack with
  | [] => { h with root := v }
  | _ :: rest => { h with stack := v :: rest }

@[simp]
theorem top_withTop (v : View) : (h.withTop v).top = v := by
  unfold withTop top
  split <;> simp_all

/-- Width and height left for the lines of the top view; before the terminal has a height the usual
size is taken. -/
def bodySize : Nat × Nat :=
  if h.height = 0 then (if h.width = 0 then 80 else h.width, 20)
  else
    let reserved := Frame.reservedRows (!h.notice.isEmpty) h.top.footer.length
    (h.width, max (h.height - reserved) 1)

/-- Fits the top view into the room it has. -/
def resizeTop : Host :=
  h.withTop (h.top.setSize h.bodySize.1 h.bodySize.2)

def push (next : Destination) : Host :=
  resizeTop { h with stack := .ofDestination h.session next :: h.stack }

/-- Opens a view in the place of the top one. -/
def replace (next : Destination) : Host :=
  (h.withTop (.ofDestination h.session next)).resizeTop

/-- Closes the top view; at the root, goes back to the scope left last. -/
def pop : Host :=
  match h.stack, h.history with
  | _ :: rest, _ => resizeTop { h with stack := rest }
  | [], saved :: rest =>
    resizeTop { h with scope := saved.scope, root := saved.root, history := rest }
  | [], [] => h

def move : Move → Host
  | .stay => h
  | .push next => h.push next
  | .replace next => h.replace next
  | .pop => h.pop

/-- Hands an event to the top view. -/
def deliver (event : Event) : Host × Option Effect :=
  let session := { h.session with columns := h.top.storeAfter event h.session.columns }
  let response := h.top.respond session event
  ((({ h with session := session }.withTop response.view).move response.move), response.effect)

/-- What a scope is chosen by. -/
def picker? : Scope → Option PickerKind
  | .resources => none
  | .namespaces => some .namespaces
  | .contexts => some .contexts

def rootOf (session : Session) (rootKind : Kind) (scope : Scope) : View :=
  match picker? scope with
  | none => .list (.ofKind session rootKind)
  | some picker => .list (.ofScope session picker)

/-- Goes to the next wider scope; says so when there is none. -/
def widen : Host :=
  match h.scope.outward? with
  | none =>
    { h with notice := s!"Already at the {h.scope.title} scope; esc to go back." }
  | some scope =>
    resizeTop
      { h with
        root := rootOf h.session h.rootKind scope
        history := ⟨h.scope, h.root⟩ :: h.history
        scope := scope }

/-- Goes to the list of a kind and forgets all other views. -/
def goTo (kind : Kind) : Host :=
  resizeTop
    { h with
      root := .list (.ofKind h.session kind)
      rootKind := kind
      stack := []
      history := []
      scope := .resources }

/-- The session with another namespace or context. -/
def selectedSession (session : Session) (kind : PickerKind) (value : String) : Session :=
  match kind with
  | .namespaces => { session with ns := .parse value }
  | .contexts => { session with context := value }

/-- Is the choice another than the current one? -/
def changes (session : Session) (kind : PickerKind) (value : String) : Bool :=
  match kind with
  | .namespaces => NamespaceScope.parse value ≠ session.ns
  | .contexts => value ≠ session.context

/-- Takes over the choice of a namespace or context and goes back to the resources.  A new choice
starts from a new list; the old choice again goes back to the list as it was left. -/
def select (kind : PickerKind) (value : String) : Host :=
  let session := selectedSession h.session kind value
  let changed := changes h.session kind value
  let (root, stack) :=
    if changed then (View.list (.ofKind session h.rootKind), [])
    else
      match h.history.getLast? with
      | some saved => (saved.root, [])
      | none => (h.root, h.stack)
  resizeTop
    { h with session := session, root := root, stack := stack, history := [], scope := .resources }

/-- Where a global key leads. -/
def globalTarget? (c : Char) : Option Destination :=
  match c with
  | '?' => some .help
  | ':' => some .browser
  | 'n' => some (.scope .namespaces)
  | 'x' => some (.scope .contexts)
  | _ => none

/-- The host after a global key that is a character; nothing when it is none. -/
def globalRune? (c : Char) : Option Host :=
  match h.session.registry.byHotkey? c with
  | some kind => some (h.goTo kind)
  | none => (globalTarget? c).map h.push

/-- The response to a key that the top view does not claim. -/
def globalKey (k : Key) : Host × Option Effect :=
  if k.isAny ["q", "ctrl+c"] then (h, some .quit)
  else if k.isSpace then h.deliver (.key ⟨"pgdown"⟩)
  else if k.isAny ["backspace", "left", "ctrl+h"] then
    (if 1 < h.depth then h.pop else h.widen, none)
  else
    match k.rune?.bind h.globalRune? with
    | some next => (next, none)
    | none => h.deliver (.key k)

/-- The response to a key; the banner goes away. -/
def key (k : Key) : Host × Option Effect :=
  let h := { h with notice := "" }
  if h.top.takesAllKeys then h.deliver (.key k) else h.globalKey k

def step (event : Event) : Host × Option Effect :=
  match event with
  | .resize width height => (resizeTop { h with width := width, height := height }, none)
  | .key k => h.key k
  | .message (.selected kind value) => (h.select kind value, none)
  | .message m => h.deliver (.message m)

/-- The host after a list of events. -/
def run : Host → List Event → Host
  | h, [] => h
  | h, event :: rest => run (h.step event).1 rest

/-- A run in two parts goes on from where the first part ends. -/
theorem run_append (events more : List Event) : h.run (events ++ more) = (h.run events).run more := by
  induction events generalizing h with
  | nil => rfl
  | cons event rest ih => exact ih (h.step event).1

/-! ## What is shown -/

/-- The trail of views from the root to the top. -/
def crumbs : List String :=
  h.root.crumb :: h.stack.reverse.map View.crumb

/-- The tag of what the root shows. -/
def rootTag : String :=
  match h.scope with
  | .resources => h.rootKind.tag
  | .namespaces => "Namespace"
  | .contexts => "Context"

/-- A heading and its value, which stand out while their scope is active. -/
def scopeSpans (heading value : String) (active : Bool) : List Span :=
  let style := if active then (Style.colored .accent).emphasized else .colored .muted
  [⟨heading ++ ": ", style⟩, ⟨value, style⟩]

def scopeLine : Line :=
  { spans :=
      scopeSpans "Context" h.session.context (h.scope = .contexts)
        ++ .raw "   " :: scopeSpans "Namespace" h.session.ns.label (h.scope = .namespaces) }

/-- The line of the trail, and what would come next. -/
def crumbLine : Line :=
  { spans :=
      [⟨s!"[{h.rootTag}]", (Style.colored .accent).emphasized⟩, .raw "  ",
       ⟨" > ".intercalate h.crumbs, .colored .white⟩]
      ++ match h.top.nextCrumb? with
        | some next => if next.isEmpty then [] else [⟨" > " ++ next, .colored .muted⟩]
        | none => [] }

/-- The banner, when there is something to say. -/
def banner? : Option Line :=
  if h.notice.isEmpty then none
  else some (.styled (" " ++ h.notice ++ " ") ((Style.colored .screen).withBg .failure))

def frame : List Line :=
  Frame.fit [h.scopeLine, h.crumbLine] h.banner? h.top.body h.top.footer h.height

end Host
end ClusterNav
