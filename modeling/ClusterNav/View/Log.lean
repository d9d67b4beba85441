import ClusterNav.Layout.Hints
import ClusterNav.Layout.Page
import ClusterNav.Text.Occurs
import ClusterNav.View.Response
import ClusterNav.Viewport

/-!
# Logs

The log of a container in a window of time, wrapped or not, searched, and followed.  A log that begins
to be followed sends a tick with a new request number, and answers each tick that carries this number
with the next one; a tick with any other number changes nothing.
-/

namespace ClusterNav

open Cluster (LogRequest)
open Select (matchPositions?)

/-- How far back a log reaches. -/
inductive LogWindow
  | minute
  | fiveMinutes
  | quarter
  | hour
  | sixHours
  | all
deriving DecidableEq, Repr

namespace LogWindow

def label : LogWindow → String
  | .minute => "1m"
  | .fiveMinutes => "5m"
  | .quarter => "15m"
  | .hour => "1h"
  | .sixHours => "6h"
  | .all => "all"

/-- The minutes of a window; no number means everything. -/
def minutes? : LogWindow → Option Nat
  | .minute => some 1
  | .fiveMinutes => some 5
  | .quarter => some 15
  | .hour => some 60
  | .sixHours => some 360
  | .all => none

/-- The next wider window; after the widest comes the narrowest. -/
def wider : LogWindow → LogWindow
  | .minute => .fiveMinutes
  | .fiveMinutes => .quarter
  | .quarter => .hour
  | .hour => .sixHours
  | .sixHours => .all
  | .all => .minute

/-- The next narrower window; after the narrowest comes the widest. -/
def narrower : LogWindow → LogWindow
  | .minute => .all
  | .fiveMinutes => .minute
  | .quarter => .fiveMinutes
  | .hour => .quarter
  | .sixHours => .hour
  | .all => .sixHours

end LogWindow

/-- The state of a search. -/
inductive LogSearch
  | off
  /-- The text searched for is being typed. -/
  | typing (text : String)
  /-- A text was searched for and found in so many lines. -/
  | applied (needle : String) (found : Nat)
deriving DecidableEq, Repr

namespace LogSearch

def needle? : LogSearch → Option String
  | .applied needle _ => some needle
  | .off | .typing _ => none

end LogSearch

/-- The log of a container of an item. -/
structure LogView where
  kind : Kind
  item : Item
  container : Option String
  /-- The lines, as the container wrote them. -/
  raw : List String
  viewport : Viewport
  following : Bool
  wrapping : Bool
  previous : Bool
  window : LogWindow
  /-- The number of the current request for ticks. -/
  request : Nat
  /-- The number of lines that following has added. -/
  followed : Nat
  search : LogSearch

namespace LogView

/-- Milliseconds between two ticks. -/
def interval : Nat := 1000

/-- The number of lines that hold a text. -/
def countFound (lines : List String) (needle : String) : Nat :=
  lines.countP fun line => (matchPositions? line needle).isSome

/-- Pieces of a list, all as long as asked for except the last, which may be shorter. -/
def pieces {α : Type} (size : Nat) (l : List α) : List (List α) :=
  if l.length ≤ max size 1 then [l]
  else l.take (max size 1) :: pieces size (l.drop (max size 1))
termination_by l.length
decreasing_by simp only [List.length_drop]; omega

/-- Nothing is lost by cutting. -/
theorem flatten_pieces {α : Type} (size : Nat) (l : List α) : (pieces size l).flatten = l := by
  fun_induction pieces size l with
  | case1 l _ => simp
  | case2 l _ ih => rw [List.flatten_cons, ih, List.take_append_drop]

/-- A line cut to a width. -/
def wrapped (line : String) (width : Nat) : List String :=
  (pieces width line.toList).map String.ofList

/-- The style of the level that a line names. -/
def levelStyle (line : String) : Style :=
  if Text.holds line " ERROR " || Text.holds line " FATAL " then .colored .failure
  else if Text.holds line " WARN " then .colored .warning
  else .plain

/-- The style of characters that a search found. -/
def foundStyle (style : Style) : Style :=
  (style.withFg .accent).reverse

/-- The characters of a line, those at the given positions as found. -/
def markedCells (style : Style) (positions : List Nat) (line : String) : List (Char × Style) :=
  line.toList.zipIdx.map fun (c, position) =>
    (c, if positions.contains position then foundStyle style else style)

/-- A line of a log, with what a search found in it. -/
def logLine (needle : Option String) (line : String) : Line :=
  let style := levelStyle line
  match needle.bind (matchPositions? line) with
  | some positions => { spans := Span.ofCells (markedCells style positions line) }
  | none => .styled line style

variable (v : LogView)

/-- The rows of the lines, each as it is or cut to the width of the window. -/
def rows : List String :=
  if v.wrapping then v.raw.flatMap fun line => wrapped line v.viewport.width else v.raw

def emptyNote : Line :=
  .note s!"No logs in the last {v.window.label}."

def layout : List Line :=
  if v.rows.isEmpty then [v.emptyNote] else v.rows.map (logLine v.search.needle?)

/-- Lays the lines out again.  A log at its end, or followed, stays at the end. -/
def relayout : LogView :=
  let viewport := v.viewport.setLines v.layout
  { v with
    viewport :=
      if v.following || v.viewport.atBottom then viewport.goBottom else viewport }

/-- Counts again what a search finds. -/
def recount : LogView :=
  match v.search with
  | .applied needle _ => { v with search := .applied needle (countFound v.raw needle) }
  | .off | .typing _ => v

/-- What the log asks its kind for. -/
def logRequest : LogRequest where
  container := v.container
  previous := v.previous
  since := v.window.minutes?

def withLines (lines : List String) : LogView :=
  ({ v with raw := lines }.recount).relayout

def reload : LogView :=
  v.withLines (v.kind.logs v.item v.logRequest)

/-- The log of an item, at its end. -/
def ofItem (kind : Kind) (item : Item) (container : Option String) : LogView :=
  let view := reload
    { kind := kind
      item := item
      container := container
      raw := []
      viewport := .ofLines []
      following := false
      wrapping := false
      previous := false
      window := .all
      request := 0
      followed := 0
      search := .off }
  { view with viewport := view.viewport.goBottom }

/-- The name of the container: the one chosen, the first one, or that of the item. -/
def containerName : String :=
  (v.container.or (v.kind.containers v.item).head?).getD v.item.name

/-- Asks for the next tick of the current request. -/
def tick : Effect :=
  .after interval (.logTick v.request)

/-- Starts to follow, or stops. -/
def toggleFollow : Response LogView :=
  let view := { v with following := !v.following, request := v.request + 1 }
  if view.following then
    let view := { view with viewport := view.viewport.goBottom }
    { view := view, effect := some view.tick }
  else { view := view }

/-- The log with the next followed line, if there is one. -/
def advance : LogView :=
  match v.kind.followLine? v.item v.containerName v.followed with
  | some line => { v with followed := v.followed + 1 }.withLines (v.raw ++ [line])
  | none => v

def onTick (request : Nat) : Response LogView :=
  if v.following && request == v.request then
    let view := v.advance
    let view := { view with viewport := view.viewport.goBottom }
    { view := view, effect := some view.tick }
  else { view := v }

def withSearch (search : LogSearch) : LogView :=
  { v with search := search }

/-- A key typed into the search prompt. -/
def searchKey (typed : String) (key : Key) : LogView :=
  match key.name with
  | "esc" => (v.withSearch .off).relayout
  | "enter" =>
    (v.withSearch
      (if typed.isEmpty then .off else .applied typed (countFound v.raw typed))).relayout
  | "backspace" | "ctrl+h" => v.withSearch (.typing (String.ofList typed.toList.dropLast))
  | _ =>
    match key.rune? with
    | some c => v.withSearch (.typing (typed.push c))
    | none => v

/-- Scrolls; who leaves the end of a followed log stops following it. -/
def scroll (key : Key) : LogView :=
  match v.viewport.scrollKey? key with
  | none => v
  | some viewport =>
    if v.following && !viewport.atBottom then
      { v with viewport := viewport, following := false, request := v.request + 1 }
    else { v with viewport := viewport }

/-- Ends the search, or else leaves. -/
def leave : Response LogView :=
  match v.search with
  | .applied _ _ => { view := (v.withSearch .off).relayout }
  | .off | .typing _ => { view := v, move := .pop }

def key (k : Key) : Response LogView :=
  match v.search with
  | .typing text => { view := v.searchKey text k }
  | .off | .applied _ _ =>
    match k.name with
    | "esc" => v.leave
    | "f" => v.toggleFollow
    | "w" => { view := { v with wrapping := !v.wrapping }.relayout }
    | "t" => { view := { v with previous := !v.previous }.reload }
    | "[" => { view := { v with window := v.window.narrower }.reload }
    | "]" => { view := { v with window := v.window.wider }.reload }
    | "/" => { view := v.withSearch (.typing "") }
    | _ => { view := v.scroll k }

def respond (event : Event) : Response LogView :=
  match event with
  | .message (.logTick request) => v.onTick request
  | .key k => v.key k
  | _ => { view := v }

/-- Is the search prompt open, so that keys are text? -/
def takesAllKeys : Bool :=
  match v.search with
  | .typing _ => true
  | .off | .applied _ _ => false

/-- A switch in words. -/
def onOff (b : Bool) : String :=
  if b then "on" else "off"

/-- What is shown, and how. -/
def summary : String :=
  let instance_ := if v.previous then "previous" else "current"
  s!"{v.item.name} [{v.containerName}] · since {v.window.label} · {instance_} · "
    ++ s!"follow {onOff v.following} · wrap {onOff v.wrapping} · {v.viewport.percent}%"

def status : Line :=
  match v.search with
  | .typing text => { spans := Line.prompt "/" text }
  | .applied needle found => .note s!"{v.summary} · \"{needle}\": {found} matches"
  | .off => .note v.summary

def footer : List Line :=
  [v.status,
   Hint.lineOf
     [("f", "follow"), ("w", "wrap"), ("t", "previous"), ("[ ]", "since"), ("/", "search"),
      ("esc", "back")]]

/-- Fits the log into an area; wrapped lines are laid out again when the width changes. -/
def setSize (width height : Nat) : LogView :=
  let view := { v with viewport := v.viewport.setSize width height }
  if v.wrapping && width != v.viewport.width then view.relayout else view

end LogView
end ClusterNav
