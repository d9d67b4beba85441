/-!
# Lines of a text

A line ends at a line feed, which is dropped together with a carriage return right before it.  Text
after the last line feed is a line too, unless it is empty.
-/

namespace ClusterNav
namespace Text

/-- Drops a carriage return from the head of a line in reverse. -/
def dropReturn : List Char → List Char
  | '\r' :: line => line
  | line => line

/-- The lines of the rest of a text, with the open line in reverse. -/
def linesAfter (line : List Char) : List Char → List (List Char)
  | [] => if line.isEmpty then [] else [line.reverse]
  | c :: rest =>
    if c = '\n' then (dropReturn line).reverse :: linesAfter [] rest
    else linesAfter (c :: line) rest

/-- The lines of a text, without their ends. -/
def lines (s : String) : List String :=
  (linesAfter [] s.toList).map String.ofList

end Text
end ClusterNav
