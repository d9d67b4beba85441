import ClusterNav.Dict

/-!
# Documents

The documents the navigator writes: scalars, sequences, and mappings from text, which keep their
keys in order.
-/

namespace ClusterNav
namespace Yaml

/-- A document. -/
inductive Doc
  | null
  | bool (b : Bool)
  | int (n : Int)
  | float (x : Float)
  | text (s : String)
  | seq (items : List Doc)
  | map (entries : List (String × Doc))
deriving Repr, Inhabited

namespace Doc

/-- A mapping with its keys in order. -/
def ofFields (fields : List (String × Doc)) : Doc :=
  .map (Dict.ofList fields).entries

/-- A mapping from text to text. -/
def ofLabels (labels : Dict String) : Doc :=
  .map (labels.entries.map fun e => (e.1, .text e.2))

/-- A text, or nothing. -/
def ofText? : Option String → Doc
  | some s => .text s
  | none => .null

/-- A sequence of texts. -/
def ofTexts (items : List String) : Doc :=
  .seq (items.map .text)

end Doc
end Yaml
end ClusterNav
