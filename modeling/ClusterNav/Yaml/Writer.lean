import ClusterNav.Yaml.Doc
import ClusterNav.Yaml.ScalarText

/-!
# Written documents

A document in block style.  A mapping writes one key a line; a sequence that is the value of a key
starts at the indentation of the key, and one inside a sequence starts on the line of its dash.
Empty collections are written on one line.

`nodeText` gives a node from where its first line goes on, since the caller has already written what
stands before it, up to the line end after it.
-/

namespace ClusterNav
namespace Yaml

/-- The written form of a floating point number: positional for moderate sizes. -/
def floatText (x : Float) : String :=
  if x.isNaN then ".nan"
  else if x.isInf then (if x < 0.0 then "-.inf" else ".inf")
  else Decimal.text (fun whole => -5 < whole && whole ≤ 16) x

/-- Keys of more bytes than this, or of several lines, are written on lines of their own. -/
def longestKey : Nat := 128

/-- Must the key be written on lines of its own? -/
def isLongKey (key : String) : Bool :=
  isMultiline key.toList || decide (longestKey < key.utf8ByteSize)

/-- Does the node start on the line after its key? -/
def Doc.startsBelow : Doc → Bool
  | .seq items => !items.isEmpty
  | .map entries => !entries.isEmpty
  | _ => false

mutual

/-- A node at an indentation. -/
def nodeText (indent : Nat) : Doc → String
  | .null => "null\n"
  | .bool b => (if b then "true" else "false") ++ "\n"
  | .int n => toString n ++ "\n"
  | .float x => floatText x ++ "\n"
  | .text s => scalarText indent s
  | .seq [] => "[]\n"
  | .seq (item :: items) => itemsText indent (item :: items)
  | .map [] => "\x7b\x7d\n"
  | .map (entry :: entries) => entriesText indent (entry :: entries)

/-- The items of a sequence; all but the first start at the indentation. -/
def itemsText (indent : Nat) : List Doc → String
  | [] => ""
  | item :: items =>
    "- " ++ nodeText (indent + 2) item
      ++ (if items.isEmpty then "" else Text.spaces indent ++ itemsText indent items)

/-- The entries of a mapping; all but the first start at the indentation. -/
def entriesText (indent : Nat) : List (String × Doc) → String
  | [] => ""
  | (key, value) :: entries =>
    let entry :=
      if isLongKey key then
        "? " ++ scalarText (indent + 2) key
          ++ Text.spaces indent ++ ": " ++ nodeText (indent + 2) value
      else
        keyText (indent + 2) key ++ ":"
          ++ (if value.startsBelow then
              "\n"
                ++ (match value with
                  | .seq items => Text.spaces indent ++ itemsText indent items
                  | other => Text.spaces (indent + 2) ++ nodeText (indent + 2) other)
            else " " ++ nodeText (indent + 2) value)
    entry
      ++ (if entries.isEmpty then "" else Text.spaces indent ++ entriesText indent entries)

end

/-- The text of a document.  A scalar that stands alone is indented like a value. -/
def write (doc : Doc) : String :=
  match doc with
  | .text s => scalarText 2 s
  | other => nodeText 0 other

end Yaml
end ClusterNav
