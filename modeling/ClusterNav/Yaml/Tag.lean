import ClusterNav.Yaml.Char

/-!
# Tags

What a tag says about its node.  A tag is a string of bytes, since the escapes in one may give bytes
that are no text.  A local tag starts with an exclamation mark and belongs to its document; a few
other tags name the standard types of scalars.
-/

namespace ClusterNav
namespace Yaml

/-- A tag, as the bytes it is written with. -/
structure Tag where
  bytes : List UInt8
deriving DecidableEq, Repr, Inhabited

/-- The standard types that a scalar has to fit. -/
inductive CoreTag
  | bool
  | int
  | float
  | null
deriving DecidableEq, Repr

namespace Tag

/-- The tag that is written as a text. -/
def ofText (s : String) : Tag :=
  ⟨s.toList.flatMap String.utf8EncodeChar⟩

/-- A tag that goes on as another. -/
def append (t more : Tag) : Tag :=
  ⟨t.bytes ++ more.bytes⟩

/-- The text of a tag, if its bytes are one. -/
def text? (t : Tag) : Option String :=
  String.fromUTF8? ⟨t.bytes.toArray⟩

/-- The tag that says nothing but that its scalar is a text. -/
def nonSpecific : Tag := .ofText "!"

/-- What the tags of the standard types start with. -/
def standardStart : Tag := .ofText "tag:yaml.org,2002:"

/-- The standard type of scalars that a tag names. -/
def core? (t : Tag) : Option CoreTag :=
  if t = standardStart.append (.ofText "bool") then some .bool
  else if t = standardStart.append (.ofText "int") then some .int
  else if t = standardStart.append (.ofText "float") then some .float
  else if t = standardStart.append (.ofText "null") then some .null
  else none

/-- Does the tag belong to the document rather than to a standard? -/
def isLocal (t : Tag) : Bool :=
  t.bytes.head? == some 0x21

/-- A name without the exclamation mark before it; the mark alone is a name. -/
def unmarked : List Char → List Char
  | '!' :: c :: rest => c :: rest
  | name => name

/-- The name of a local tag.  One that is no text has no name. -/
def localName? (t : Tag) : Option String :=
  if t.isLocal then t.text?.map fun s => String.ofList (unmarked (unmarked s.toList)) else none

end Tag
end Yaml
end ClusterNav
