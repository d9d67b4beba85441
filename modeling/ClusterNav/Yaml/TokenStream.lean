import ClusterNav.Yaml.ScalarScan
import ClusterNav.Yaml.TagScan

/-!
# Token streams

A text is read into tokens from left to right.  Indentation opens and closes block collections.  A
key is recognised only at the colon after it, so the place of a possible key is kept for every open
flow collection, and the tokens that announce the key are put in there.
-/

namespace ClusterNav
namespace Yaml

/-- A place where a key may have started. -/
structure PossibleKey where
  /-- Index of the token the key starts with. -/
  position : Nat
  mark : Mark
  /-- The key is the only thing that can stand there. -/
  required : Bool
deriving Repr, Inhabited

/-- The tokens read so far and what is open. -/
structure Reader where
  cursor : Cursor
  tokens : List Token := []
  /-- Indentation of the innermost block collection. -/
  indent : Int := -1
  /-- Indentations of the block collections around it. -/
  outer : List Int := []
  /-- The possible keys, one for the block and one for each open flow collection. -/
  keys : List (Option PossibleKey) := [none]
  /-- May a key start here? -/
  keyAllowed : Bool := true
deriving Inhabited

namespace Reader

/-- Number of open flow collections. -/
def flowDepth (r : Reader) : Nat := r.keys.length - 1

def inFlow (r : Reader) : Bool := r.flowDepth != 0

/-- Adds a token that starts at a mark. -/
def add (r : Reader) (kind : TokenKind) (mark : Mark) : Reader :=
  { r with tokens := r.tokens ++ [⟨kind, mark⟩] }

/-- Adds a token of some characters at the cursor. -/
def take (r : Reader) (kind : TokenKind) (length : Nat) : Reader :=
  { r.add kind r.cursor.mark with cursor := r.cursor.skip length }

/-- Puts in a token before another. -/
def insertAt (r : Reader) (position : Nat) (kind : TokenKind) (mark : Mark) : Reader :=
  { r with tokens := r.tokens.take position ++ ⟨kind, mark⟩ :: r.tokens.drop position }

/-- Closes the block collections indented more than a column. -/
def unindent (column : Int) : Nat → Reader → Reader
  | 0, r => r
  | fuel + 1, r =>
    if column < r.indent then
      let indent := r.outer.headD (-1)
      unindent column fuel
        { r.add .blockEnd r.cursor.mark with indent := indent, outer := r.outer.tail }
    else r

/-- Closes block collections, unless a flow collection is open. -/
def closeTo (r : Reader) (column : Int) : Reader :=
  if r.inFlow then r else unindent column (r.outer.length + 1) r

/-- Opens a block collection at a column, if it is indented more than the one around it. -/
def openAt (r : Reader) (column : Nat) (position : Nat) (kind : TokenKind) (mark : Mark) : Reader :=
  if r.inFlow || (column : Int) ≤ r.indent then r
  else { r.insertAt position kind mark with indent := column, outer := r.indent :: r.outer }

/-- Replaces the possible key of the innermost collection. -/
def setKey (r : Reader) (key : Option PossibleKey) : Reader :=
  { r with keys := key :: r.keys.tail }

/-- Gives up the possible key; one that is required cannot be given up. -/
def dropKey (r : Reader) : Except Fault Reader :=
  match r.keys.headD none with
  | some key => if key.required then .error .unfinishedKey else .ok (r.setKey none)
  | none => .ok r

/-- Notes that a key may start here. -/
def saveKey (r : Reader) : Except Fault Reader :=
  if r.keyAllowed then do
    let required := !r.inFlow && r.indent == r.cursor.mark.column
    let r ← r.dropKey
    return r.setKey (some ⟨r.tokens.length, r.cursor.mark, required⟩)
  else .ok r

/-- The longest key, in bytes. -/
def longestKey : Nat := 1024

/-- Gives up possible keys that are too far back or on an earlier line. -/
def dropStale (r : Reader) : Except Fault Reader := do
  let mark := r.cursor.mark
  let keys ← r.keys.mapM fun key =>
    match key with
    | some k =>
      if k.mark.line < mark.line || k.mark.index + longestKey < mark.index then
        if k.required then Except.error Fault.unfinishedKey else .ok none
      else .ok (some k)
    | none => .ok none
  return { r with keys := keys }

/-- Eats byte order marks, spaces, comments and line ends before a token. -/
def skipToToken : Nat → Reader → Reader
  | 0, r => r
  | fuel + 1, r =>
    let c := r.cursor
    let c := if c.mark.column = 0 && isOrderMark c.head then c.skip 1 else c
    let tabs := r.inFlow || !r.keyAllowed
    let c := c.skipWhile fun ch => ch = ' ' || (tabs && ch = '\t')
    let c := if c.head = '#' then c.skipWhile (fun ch => !isLineEnd ch) else c
    if isBreak c.head then
      skipToToken fuel
        { r with cursor := c.readBreak.2, keyAllowed := r.keyAllowed || !r.inFlow }
    else { r with cursor := c }

def readEnd (r : Reader) : Except Fault Reader := do
  let r := r.closeTo (-1)
  let r ← r.dropKey
  return r.add .streamEnd r.cursor.mark

def readMarker (r : Reader) (kind : TokenKind) : Except Fault Reader := do
  let r ← (r.closeTo (-1)).dropKey
  return { r.take kind 3 with keyAllowed := false }

def readDirectiveToken (r : Reader) : Except Fault Reader := do
  let r ← (r.closeTo (-1)).dropKey
  let (kind, next) ← readDirective r.cursor
  return { r.add kind r.cursor.mark with cursor := next, keyAllowed := false }

def openFlow (r : Reader) (kind : TokenKind) : Except Fault Reader := do
  let r ← r.saveKey
  return { r.take kind 1 with keys := none :: r.keys, keyAllowed := true }

def closeFlow (r : Reader) (kind : TokenKind) : Except Fault Reader := do
  let r ← r.dropKey
  let keys := if r.inFlow then r.keys.tail else r.keys
  return { r.take kind 1 with keys := keys, keyAllowed := false }

/-- Reads the comma of a flow collection. -/
def readFlowItem (r : Reader) : Except Fault Reader := do
  let r ← r.dropKey
  return { r.take .flowItem 1 with keyAllowed := true }

/-- Reads the dash of a block sequence. -/
def readBlockItem (r : Reader) : Except Fault Reader := do
  if !r.inFlow && !r.keyAllowed then throw .misplacedItem
  let mark := r.cursor.mark
  let r ← (r.openAt mark.column r.tokens.length .blockSeqStart mark).dropKey
  return { r.take .blockItem 1 with keyAllowed := true }

/-- Reads the question mark of a key. -/
def readKey (r : Reader) : Except Fault Reader := do
  if !r.inFlow && !r.keyAllowed then throw .misplacedKey
  let mark := r.cursor.mark
  let r ← (r.openAt mark.column r.tokens.length .blockMapStart mark).dropKey
  return { r.take .key 1 with keyAllowed := !r.inFlow }

/-- Reads the colon of a value, and announces the key before it. -/
def readValue (r : Reader) : Except Fault Reader := do
  match r.keys.headD none with
  | some key =>
    let r := r.insertAt key.position .key key.mark
    let r := (r.openAt key.mark.column key.position .blockMapStart key.mark).setKey none
    return { r.take .value 1 with keyAllowed := false }
  | none =>
    if !r.inFlow && !r.keyAllowed then throw .misplacedValue
    let mark := r.cursor.mark
    let r := r.openAt mark.column r.tokens.length .blockMapStart mark
    return { r.take .value 1 with keyAllowed := !r.inFlow }

def readAnchor (r : Reader) (kind : String → TokenKind) : Except Fault Reader := do
  let r ← r.saveKey
  let (name, next) ← readAnchorName r.cursor
  return { r.add (kind name) r.cursor.mark with cursor := next, keyAllowed := false }

def readTagToken (r : Reader) : Except Fault Reader := do
  let r ← r.saveKey
  let (kind, next) ← readTag r.inFlow r.cursor
  return { r.add kind r.cursor.mark with cursor := next, keyAllowed := false }

def readBlockScalar (r : Reader) (folds : Bool) : Except Fault Reader := do
  let r ← r.dropKey
  let (text, next) ← readBlock folds r.indent r.cursor
  return { r.add (.scalar (String.ofList text) false) r.cursor.mark with
    cursor := next, keyAllowed := true }

def readQuotedScalar (r : Reader) (single : Bool) : Except Fault Reader := do
  let r ← r.saveKey
  let (text, next) ← readQuoted single r.cursor
  return { r.add (.scalar (String.ofList text) false) r.cursor.mark with
    cursor := next, keyAllowed := false }

def readPlainScalar (r : Reader) : Except Fault Reader := do
  let r ← r.saveKey
  let result ← readPlain r.inFlow (r.indent + 1) r.cursor
  return { r.add (.scalar (String.ofList result.text) true) r.cursor.mark with
    cursor := result.cursor, keyAllowed := result.onNewLine }

/-- Characters that never start a plain scalar. -/
def neverPlain : List Char :=
  [',', '[', ']', '{', '}', '#', '&', '*', '!', '|', '>', '\x27', '\x22', '%', '@', '\x60']

/-- May a plain scalar start at the cursor? -/
def startsPlain (r : Reader) : Bool :=
  let head := r.cursor.head
  let following := r.cursor.peek 1
  if isGap head || neverPlain.contains head then false
  else if head = '-' then !isSpace following
  else if head = '?' || head = ':' then !r.inFlow && !isGap following
  else true

/-- Reads the token at the cursor; the text has not ended. -/
def readToken (r : Reader) : Except Fault Reader :=
  let c := r.cursor
  let head := c.head
  let gapFollows := isGap (c.peek 1)
  if c.mark.column = 0 && head = '%' then r.readDirectiveToken
  else if c.atMarker '-' then r.readMarker .documentStart
  else if c.atMarker '.' then r.readMarker .documentEnd
  else if head = '[' then r.openFlow .flowSeqStart
  else if head = '{' then r.openFlow .flowMapStart
  else if head = ']' then r.closeFlow .flowSeqEnd
  else if head = '}' then r.closeFlow .flowMapEnd
  else if head = ',' then r.readFlowItem
  else if head = '-' && gapFollows then r.readBlockItem
  else if head = '?' && (r.inFlow || gapFollows) then r.readKey
  else if head = ':' && (r.inFlow || gapFollows) then r.readValue
  else if head = '*' then r.readAnchor .alias
  else if head = '&' then r.readAnchor .anchor
  else if head = '!' then r.readTagToken
  else if head = '|' && !r.inFlow then r.readBlockScalar false
  else if head = '>' && !r.inFlow then r.readBlockScalar true
  else if head = '\x27' then r.readQuotedScalar true
  else if head = '\x22' then r.readQuotedScalar false
  else if r.startsPlain then r.readPlainScalar
  else .error .misplacedCharacter

def readAll : Nat → Reader → Except Fault Reader
  | 0, r => r.readEnd
  | fuel + 1, r => do
    let r := r.skipToToken (r.cursor.rest.length + 1)
    let r ← r.dropStale
    let r := r.closeTo r.cursor.mark.column
    if r.cursor.rest.isEmpty then r.readEnd
    else readAll fuel (← r.readToken)

end Reader

def tokens (text : String) : Except Fault (List Token) :=
  let cs := text.toList
  if cs.all isReadable then
    (Reader.readAll (cs.length + 1) { cursor := { rest := cs } }).map (·.tokens)
  else .error .controlCharacter

end Yaml
end ClusterNav
