import ClusterNav.Text.Lowercase

/-!
# Finding a text in a text

The first place where a text occurs in another, whatever the case of its letters.  The answer is the
list of character positions the occurrence covers, for highlighting.
-/

namespace ClusterNav
namespace Select

/-- Does `hay` start with the characters of `needle`, up to case? -/
def startsWith : (needle hay : List Char) → Bool
  | [], _ => true
  | _ :: _, [] => false
  | n :: ns, h :: hs => Text.sameLetter h n && startsWith ns hs

/-- The least offset from `start` at which `needle` occurs in `hay`. -/
def firstOccurrence? (needle : List Char) (start : Nat) : (hay : List Char) → Option Nat
  | [] => if needle.isEmpty then some start else none
  | h :: hs =>
    if startsWith needle (h :: hs) then some start
    else firstOccurrence? needle (start + 1) hs

/-- The positions of the first occurrence; none at all when the text to find is empty. -/
def matchPositions? (value needle : String) : Option (List Nat) :=
  if needle.isEmpty then some []
  else
    (firstOccurrence? needle.toList 0 value.toList).map fun start =>
      List.range' start needle.length

end Select
end ClusterNav
