/-!
# Does a text occur in a text?

The exact test, in which the case of letters counts.
-/

namespace ClusterNav
namespace Text

/-- Does the first list of characters occur in the second? -/
def occursIn (needle : List Char) : List Char → Bool
  | [] => needle.isEmpty
  | c :: rest => needle.isPrefixOf (c :: rest) || occursIn needle rest

def holds (s needle : String) : Bool :=
  occursIn needle.toList s.toList

end Text
end ClusterNav
