/-!
# Character ranges

A property of characters given by a standard is a list of closed code point ranges.  This module
holds the membership test; the tables stand in the modules of the properties.
-/

namespace ClusterNav
namespace Text

/-- Closed ranges of code points. -/
abbrev Ranges := List (Nat × Nat)

/-- Does one of the ranges hold the character? -/
def Ranges.has (ranges : Ranges) (c : Char) : Bool :=
  ranges.any fun range => range.1 ≤ c.toNat && c.toNat ≤ range.2

end Text
end ClusterNav
