import ClusterNav.Decimal.Text
import ClusterNav.Style
import ClusterNav.Text.Blank

/-!
# Coloured YAML

One line of YAML in colours: comments, list markers, keys and values.  The parts are found by their
characters alone, so any line can be coloured.
-/

namespace ClusterNav
namespace YamlLine

def keyColor : Color := .rgb 103 232 249

def quotedColor : Color := .rgb 125 211 252

def numberColor : Color := .rgb 251 146 60

def wordColor : Color := .rgb 147 197 253

def valueColor (value : String) : Color :=
  match value.toList.head? with
  | some '\x22' | some '\x27' => quotedColor
  | _ =>
    if ["true", "false", "null", "~"].contains value then .warning
    else if Decimal.isNumber value then numberColor
    else wordColor

/-- Cuts a text at its first colon, when the part before it can be a key and the part after it is
empty or starts with a space. -/
def splitKey? (content : List Char) : Option (List Char × List Char) :=
  let key := content.takeWhile (· != ':')
  match content.dropWhile (· != ':') with
  | [] => none
  | _ :: value =>
    if key.isEmpty || key.contains ' ' || key.head? == some '\x22' then none
    else if value.head?.all (· == ' ') then some (key, value)
    else none

/-- The spans of a value, set off by a space. -/
def valueSpans (value : List Char) : List Span :=
  let value := String.ofList value
  if value.isEmpty then [] else [.raw " ", ⟨value, .colored (valueColor value)⟩]

/-- The spans of a line after its indentation and list marker. -/
def contentSpans (content : List Char) : List Span :=
  match splitKey? content with
  | some (key, value) =>
    [⟨String.ofList key, .colored keyColor⟩, ⟨":", .colored .muted⟩]
      ++ valueSpans (Text.trimChars value)
  | none =>
    let text := String.ofList content
    [⟨text, .colored (valueColor text)⟩]

/-- The spans of a line after its indentation. -/
def bodySpans : List Char → List Span
  | [] => []
  | '#' :: rest => [⟨String.ofList ('#' :: rest), .colored .muted⟩]
  | '-' :: ' ' :: rest => ⟨"- ", .colored .accent⟩ :: contentSpans rest
  | content => contentSpans content

def highlight (line : String) : Line :=
  let cs := line.toList
  { spans := .raw (String.ofList (cs.takeWhile (· == ' '))) :: bodySpans (cs.dropWhile (· == ' ')) }

end YamlLine
end ClusterNav
