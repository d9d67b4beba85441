import ClusterNav.Text.Printable

/-!
# Keys

A key is known by its name: a single printable character stands for itself, and every other key has
a word, with the modifiers held before it (`ctrl+c`, `shift+home`).  `Key.ofTerminal?` names the keys
a terminal reports.
-/

namespace ClusterNav

/-- A key, by name. -/
structure Key where
  name : String
deriving DecidableEq, Repr, Inhabited

/-- Which key the terminal reports. -/
inductive KeyCode
  | char (c : Char)
  | function (n : Nat)
  | enter
  | tab
  | backTab
  | backspace
  | delete
  | insert
  | escape
  | left
  | right
  | up
  | down
  | home
  | last
  | pageUp
  | pageDown
  | unnamed
deriving DecidableEq, Repr

/-- A key press with the modifiers held. -/
structure KeyPress where
  code : KeyCode
  ctrl : Bool := false
  alt : Bool := false
  shift : Bool := false
deriving DecidableEq, Repr

/-- The word for a key that is not a character. -/
def KeyCode.word? : KeyCode → Option String
  | .char _ | .backTab | .unnamed => none
  | .function n => some s!"f{n}"
  | .enter => some "enter"
  | .tab => some "tab"
  | .backspace => some "backspace"
  | .delete => some "delete"
  | .insert => some "insert"
  | .escape => some "esc"
  | .left => some "left"
  | .right => some "right"
  | .up => some "up"
  | .down => some "down"
  | .home => some "home"
  | .last => some "end"
  | .pageUp => some "pgup"
  | .pageDown => some "pgdown"

namespace Key

/-- The printable character a key stands for, if it is exactly one. -/
def rune? (k : Key) : Option Char :=
  match k.name.toList with
  | [c] => if Text.isControl c then none else some c
  | _ => none

def isSpace (k : Key) : Bool :=
  k.name == " " || k.name == "space"

/-- Is the key one of these? -/
def isAny (k : Key) (names : List String) : Bool :=
  names.contains k.name

/-- The names of the modifiers held, in their fixed order. -/
def modifiers (p : KeyPress) : List String :=
  (if p.ctrl then ["ctrl"] else []) ++ (if p.alt then ["alt"] else [])
    ++ (if p.shift then ["shift"] else [])

/-- The name of a key press.  On a character, control wins over alt and shift is already in the
character; a shifted tab has a code of its own. -/
def ofTerminal? (p : KeyPress) : Option Key :=
  match p.code with
  | .char c =>
    if p.ctrl then some ⟨s!"ctrl+{c.toLower}"⟩
    else if p.alt then some ⟨s!"alt+{c}"⟩
    else some ⟨c.toString⟩
  | .backTab => some ⟨"shift+tab"⟩
  | code => code.word?.map fun word => ⟨"+".intercalate (modifiers p ++ [word])⟩

/-- A character without control or alt names itself. -/
theorem ofTerminal?_char (c : Char) (shift : Bool) :
    ofTerminal? { code := .char c, shift := shift } = some ⟨c.toString⟩ := rfl

/-- A key named by one printable character stands for it. -/
theorem rune?_toString (c : Char) (h : Text.isControl c = false) :
    rune? ⟨c.toString⟩ = some c := by
  simp [rune?, Char.toString_eq_singleton, h]

/-- The name of a key that is a character is this character. -/
theorem toList_name_of_rune? {k : Key} {c : Char} (h : k.rune? = some c) : k.name.toList = [c] := by
  unfold rune? at h
  split at h
  · rename_i d hname
    split at h
    · cases h
    · rw [hname, Option.some.inj h]
  · cases h

/-- A character has no name but its own. -/
theorem name_ne_of_rune? {k : Key} {c : Char} (h : k.rune? = some c) {name : String}
    (hname : name.toList ≠ [c]) : k.name ≠ name := by
  rintro rfl
  exact hname (toList_name_of_rune? h)

end Key
end ClusterNav
