import ClusterNav.Yaml.Tag

/-!
# Tokens

What a YAML text is made of, each with the place where it starts.
-/

namespace ClusterNav
namespace Yaml

/-- A place in a text; all counts start at zero. -/
structure Mark where
  /-- Bytes before the place. -/
  index : Nat := 0
  line : Nat := 0
  /-- Characters of its line before the place. -/
  column : Nat := 0
deriving DecidableEq, Repr, Inhabited

/-- Why a text is no document. -/
inductive Fault
  | controlCharacter
  | misplacedCharacter
  | misplacedTab
  | openQuote
  | badEscape
  | badDirective
  | badTag
  | badAnchor
  | badBlockHeader
  | misplacedItem
  | misplacedKey
  | misplacedValue
  | unfinishedKey
  | unexpectedToken
  | unknownHandle
  | unknownAnchor
  | severalDocuments
deriving DecidableEq, Repr

/-- The sorts of tokens. -/
inductive TokenKind
  | streamEnd
  | version (major minor : Nat)
  | tagHandle (handle : String) (expansion : Tag)
  | documentStart
  | documentEnd
  | blockSeqStart
  | blockMapStart
  | blockEnd
  | flowSeqStart
  | flowSeqEnd
  | flowMapStart
  | flowMapEnd
  | blockItem
  | flowItem
  | key
  | value
  | alias (name : String)
  | anchor (name : String)
  | tag (handle : String) (suffix : Tag)
  | scalar (text : String) (plain : Bool)
deriving DecidableEq, Repr, Inhabited

/-- A token at its place. -/
structure Token where
  kind : TokenKind
  mark : Mark
deriving DecidableEq, Repr, Inhabited

end Yaml
end ClusterNav
