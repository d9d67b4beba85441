import ClusterNav.Key
import ClusterNav.Select.Match
import ClusterNav.Select.Paginator

/-!
# Filtered lists

A list of text values with a filter, a cursor on one of the values that match, and the page the
cursor is on.  A list reads keys in two ways: cursor keys while it is browsed, and editing keys while
its filter is typed.
-/

namespace ClusterNav
namespace Select

/-- Is a filter typed, kept, or neither? -/
inductive FilterState
  | unfiltered
  | filtering
  | applied
deriving DecidableEq, Repr, Inhabited

/-- A value that matches: its index among all values, and the positions that match. -/
structure FilterMatch where
  index : Nat
  positions : List Nat
deriving DecidableEq, Repr, Inhabited

/-- A list of values under a filter, with a cursor. -/
structure FilterList where
  values : List String
  filter : String
  state : FilterState
  visible : List FilterMatch
  cursor : Nat
  paginator : Paginator
deriving Repr, DecidableEq, Inhabited

namespace FilterList

/-- The values from an index on that match a filter, in order. -/
def matchesFrom (filter : String) (index : Nat) : List String → List FilterMatch
  | [] => []
  | value :: rest =>
    match matchPositions? value filter with
    | some positions => ⟨index, positions⟩ :: matchesFrom filter (index + 1) rest
    | none => matchesFrom filter (index + 1) rest

/-- Puts the cursor on a visible row, the last one at most. -/
def selectVisible (l : FilterList) (position : Nat) : FilterList :=
  let cursor := min position (l.visible.length - 1)
  { l with cursor := cursor, paginator := l.paginator.follow cursor }

/-- Matches the values again and keeps the cursor as far as there are rows. -/
def refilter (l : FilterList) : FilterList :=
  let visible := matchesFrom l.filter 0 l.values
  selectVisible
    { l with visible := visible, paginator := l.paginator.setTotal visible.length } l.cursor

/-- The list of some values, without a filter, on its first row. -/
def ofValues (values : List String) : FilterList :=
  refilter
    { values := values
      filter := ""
      state := .unfiltered
      visible := []
      cursor := 0
      paginator := .new 10 }

def setValues (l : FilterList) (values : List String) : FilterList :=
  refilter { l with values := values }

def setPerPage (l : FilterList) (n : Nat) : FilterList :=
  { l with paginator := (l.paginator.setPerPage n).follow l.cursor }

def isFiltering (l : FilterList) : Bool :=
  l.state == .filtering

def isFiltered (l : FilterList) : Bool :=
  !l.filter.isEmpty

def startFilter (l : FilterList) : FilterList :=
  { l with state := .filtering }

def pushChar (l : FilterList) (c : Char) : FilterList :=
  refilter { l with filter := l.filter.push c, cursor := 0 }

/-- Removes the last character of the filter. -/
def popChar (l : FilterList) : FilterList :=
  if l.filter.isEmpty then l
  else refilter { l with filter := String.ofList l.filter.toList.dropLast, cursor := 0 }

/-- Closes the filter prompt and keeps what it found. -/
def commit (l : FilterList) : FilterList :=
  { l with state := if l.filter.isEmpty then .unfiltered else .applied }

def clearFilter (l : FilterList) : FilterList :=
  refilter { l with filter := "", state := .unfiltered }

def value? (l : FilterList) (index : Nat) : Option String :=
  l.values[index]?

/-- The index, among all values, of the one under the cursor. -/
def selectedIndex? (l : FilterList) : Option Nat :=
  l.visible[l.cursor]?.map (·.index)

def moveUp (l : FilterList) (n : Nat) : FilterList :=
  l.selectVisible (l.cursor - n)

def moveDown (l : FilterList) (n : Nat) : FilterList :=
  l.selectVisible (l.cursor + n)

/-- The list after a cursor key; nothing for any other key. -/
def cursorKey? (l : FilterList) (key : Key) : Option FilterList :=
  match key.name with
  | "up" | "k" => some (l.moveUp 1)
  | "down" | "j" => some (l.moveDown 1)
  | "pgup" | "ctrl+u" => some (l.moveUp l.paginator.perPage)
  | "pgdown" | "ctrl+d" => some (l.moveDown l.paginator.perPage)
  | "home" | "g" => some (l.selectVisible 0)
  | "end" | "G" => some (l.selectVisible l.visible.length)
  | _ => none

/-- The list after a key that is a cursor key or does nothing. -/
def cursorKey (l : FilterList) (key : Key) : FilterList :=
  (l.cursorKey? key).getD l

/-- The list after a key typed into the filter prompt. -/
def editKey (l : FilterList) (key : Key) : FilterList :=
  match key.name with
  | "esc" => l.clearFilter
  | "enter" => l.commit
  | "backspace" | "ctrl+h" => l.popChar
  | "up" => l.moveUp 1
  | "down" => l.moveDown 1
  | "pgup" => l.moveUp l.paginator.perPage
  | "pgdown" => l.moveDown l.paginator.perPage
  | _ =>
    match key.rune? with
    | some c => l.pushChar c
    | none => l

/-- The first letter of a visible value, made small. -/
def initial? (l : FilterList) (entry : FilterMatch) : Option Char :=
  ((l.value? entry.index).bind fun v => v.toList.head?).map Char.toLower

/-- The first visible row whose value starts with a letter, whatever its case. -/
def findInitial? (l : FilterList) (letter : Char) : Option Nat :=
  l.visible.findIdx? fun entry => l.initial? entry == some letter.toLower

/-- Puts the cursor on the first visible value that starts with a letter, and says whether there is
one. -/
def jump (l : FilterList) (letter : Char) : FilterList × Bool :=
  match l.findInitial? letter with
  | some position => (l.selectVisible position, true)
  | none => (l, false)

/-- The list after a jump, whether or not there was a value to jump to. -/
def jumpToInitial (l : FilterList) (letter : Char) : FilterList :=
  (l.jump letter).1

/-- First row of the page, and the row after its last. -/
def pageBounds (l : FilterList) : Nat × Nat :=
  l.paginator.bounds

def pageEntries (l : FilterList) : List FilterMatch :=
  let (start, stop) := l.pageBounds
  (l.visible.drop start).take (stop - start)

/-- Marks the first of each letter, given the letters seen before. -/
def firstOfEach (seen : List Char) : List (Option Char) → List Bool
  | [] => []
  | none :: rest => false :: firstOfEach seen rest
  | some c :: rest =>
    if seen.contains c then false :: firstOfEach seen rest
    else true :: firstOfEach (c :: seen) rest

/-- For each row of the page: is it the first of its initial? -/
def initialHints (l : FilterList) : List Bool :=
  firstOfEach [] (l.pageEntries.map l.initial?)

/-- Which rows are shown, and of how many. -/
def showing (l : FilterList) : String :=
  let (start, stop) := l.pageBounds
  let first := if stop = 0 then 0 else start + 1
  let text := s!"Showing {first}-{stop} of {l.visible.length}"
  if l.isFiltered then text ++ " [filtered]" else text

/-- Puts the cursor on the first visible row of which a property holds. -/
def selectFirst (l : FilterList) (p : FilterMatch → Bool) : FilterList :=
  match l.visible.findIdx? p with
  | some position => l.selectVisible position
  | none => l

end FilterList
end Select
end ClusterNav
