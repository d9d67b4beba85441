/-!
# Fitting text into cells

Cells are measured in characters.  `compact` cuts a text to a limit and marks the cut with an
ellipsis; `fit` also pads it with spaces, so that the result has exactly the width asked for.
-/

namespace ClusterNav
namespace Text

/-- A run of `n` copies of one character. -/
def repeated (c : Char) (n : Nat) : String :=
  String.ofList (List.replicate n c)

def spaces (n : Nat) : String :=
  repeated ' ' n

/-- At most `limit` characters; the last of them is an ellipsis when something was cut. -/
def compactChars (cs : List Char) (limit : Nat) : List Char :=
  if cs.length ≤ limit then cs
  else
    match limit with
    | 0 => []
    | n + 1 => cs.take n ++ ['…']

/-- Characters padded with spaces to at least `width`. -/
def padChars (cs : List Char) (width : Nat) : List Char :=
  cs ++ List.replicate (width - cs.length) ' '

/-- Text of at most `limit` characters. -/
def compact (s : String) (limit : Nat) : String :=
  String.ofList (compactChars s.toList limit)

/-- Text padded with spaces to at least `width` characters. -/
def padRight (s : String) (width : Nat) : String :=
  String.ofList (padChars s.toList width)

/-- Text of exactly `width` characters. -/
def fit (s : String) (width : Nat) : String :=
  String.ofList (padChars (compactChars s.toList width) width)

@[simp]
theorem toList_repeated (c : Char) (n : Nat) : (repeated c n).toList = List.replicate n c := by
  simp [repeated]

@[simp]
theorem toList_compact (s : String) (limit : Nat) :
    (compact s limit).toList = compactChars s.toList limit := by
  simp [compact]

@[simp]
theorem toList_fit (s : String) (width : Nat) :
    (fit s width).toList = padChars (compactChars s.toList width) width := by
  simp [fit]

theorem length_compactChars (cs : List Char) (limit : Nat) :
    (compactChars cs limit).length = min cs.length limit := by
  unfold compactChars
  split
  · omega
  · cases limit with
    | zero => simp
    | succ n => simp; omega

theorem length_padChars (cs : List Char) (width : Nat) :
    (padChars cs width).length = max cs.length width := by
  simp [padChars]; omega

/-- A fitted text has exactly the width asked for. -/
theorem length_toList_fit (s : String) (width : Nat) : (fit s width).toList.length = width := by
  rw [toList_fit, length_padChars, length_compactChars]
  omega

end Text
end ClusterNav
