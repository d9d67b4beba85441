import ClusterNav.Text.Width.Sequence

/-!
# Display width

How many terminal columns a text takes.  A character counts two when it is wide, none when it only
modifies its neighbour, and one otherwise; a control character counts one.  Emoji sequences are
measured as the picture they draw, and letters that a script writes together as the form they share:
a text is measured from its end, because a character is changed by what follows it.
-/

namespace ClusterNav
namespace Text

/-- The columns of a text, and what a character before it would stand next to. -/
def measured : List Char → Int × Follower
  | [] => (0, .nothing)
  | c :: rest =>
    let (columns, after) := measured rest
    let (added, start) := after.step c
    (columns + added, start)

def listWidth (text : List Char) : Nat :=
  (measured text).1.toNat

def width (s : String) : Nat :=
  listWidth s.toList

/-- A character that takes one column, and that changes no character before it. -/
def IsNarrow (c : Char) : Prop :=
  Follower.nothing.step c = (1, .nothing)

instance : DecidablePred IsNarrow := fun _ => inferInstanceAs (Decidable (_ = _))

theorem measured_of_narrow (text : List Char) (h : ∀ c ∈ text, IsNarrow c) :
    measured text = ((text.length : Int), Follower.nothing) := by
  induction text with
  | nil => rfl
  | cons c rest ih =>
    have hc : Follower.nothing.step c = (1, .nothing) := h c (List.mem_cons_self ..)
    rw [measured, ih fun d hd => h d (List.mem_cons_of_mem _ hd)]
    simp [hc]

/-- A text of narrow characters takes one column a character. -/
theorem listWidth_of_narrow {text : List Char} (h : ∀ c ∈ text, IsNarrow c) :
    listWidth text = text.length := by
  simp [listWidth, measured_of_narrow text h]

end Text
end ClusterNav
