import ClusterNav.Yaml.Cursor

/-!
# Reading tags, anchors and directives

The parts of a YAML text that start with an exclamation mark, an ampersand, a star or a percent sign.
-/

namespace ClusterNav
namespace Yaml

/-- May the character stand in a tag?  Inside angle brackets a few more may. -/
def isTagChar (bracketed : Bool) (c : Char) : Bool :=
  isWordChar c || [';', '/', '?', ':', '@', '&', '=', '+', '$', '.', '%', '!', '~', '*', '\x27', '(',
    ')'].contains c || (bracketed && [',', '[', ']'].contains c)

def hexByte? (high low : Char) : Option Nat :=
  let digit := fun (c : Char) =>
    if c.isDigit then some (c.toNat - 48)
    else if 'a' ≤ c ∧ c ≤ 'f' then some (c.toNat - 87)
    else if 'A' ≤ c ∧ c ≤ 'F' then some (c.toNat - 55)
    else none
  (digit high).bind fun h => (digit low).map fun l => 16 * h + l

/-- The length of a UTF-8 sequence by its first byte. -/
def sequenceLength? (byte : Nat) : Option Nat :=
  if byte < 0x80 then some 1
  else if 0xC0 ≤ byte && byte < 0xE0 then some 2
  else if 0xE0 ≤ byte && byte < 0xF0 then some 3
  else if 0xF0 ≤ byte && byte < 0xF8 then some 4
  else none

/-- Reads `more` escaped bytes that continue a character. -/
def readContinuation : Nat → List Char → Except Fault (List UInt8 × List Char)
  | 0, rest => .ok ([], rest)
  | more + 1, '%' :: a :: b :: rest =>
    match hexByte? a b with
    | some byte =>
      if 0x80 ≤ byte && byte < 0xC0 then
        (readContinuation more rest).map fun r => (UInt8.ofNat byte :: r.1, r.2)
      else .error .badTag
    | none => .error .badTag
  | _ + 1, _ => .error .badTag

/-- Reads the bytes of one escaped character, after its percent sign.  Their number is that which the
first one announces; they need not be a character. -/
def readEscapedBytes (cs : List Char) : Except Fault (List UInt8 × List Char) :=
  match cs with
  | a :: b :: rest =>
    match (hexByte? a b).bind fun byte => (sequenceLength? byte).map fun n => (byte, n) with
    | some (byte, n) =>
      (readContinuation (n - 1) rest).map fun r => (UInt8.ofNat byte :: r.1, r.2)
    | none => .error .badTag
  | _ => .error .badTag

def readTagBytes (bracketed : Bool) : Nat → List Char → Except Fault (List UInt8 × List Char)
  | 0, cs => .ok ([], cs)
  | _ + 1, [] => .ok ([], [])
  | fuel + 1, c :: rest =>
    if c = '%' then do
      let (bytes, rest) ← readEscapedBytes rest
      let (more, rest) ← readTagBytes bracketed fuel rest
      return (bytes ++ more, rest)
    else if isTagChar bracketed c then do
      let (more, rest) ← readTagBytes bracketed fuel rest
      return (String.utf8EncodeChar c ++ more, rest)
    else .ok ([], c :: rest)

/-- Reads a tag that goes on after a start; without a start it is not empty. -/
def readTagFrom (bracketed : Bool) (start : Option Tag) (c : Cursor) :
    Except Fault (Tag × Cursor) := do
  let (bytes, rest) ← readTagBytes bracketed (c.rest.length + 1) c.rest
  if bytes.isEmpty && start.isNone then throw .badTag
  return ((start.getD ⟨[]⟩).append ⟨bytes⟩, c.skip (c.rest.length - rest.length))

/-- The handle at the start of a tag: an exclamation mark, and a name with a second one. -/
def readHandle (c : Cursor) : List Char × Cursor :=
  let (name, next) := (c.skip 1).span isWordChar
  if next.head = '!' then ('!' :: name ++ ['!'], next.skip 1) else ('!' :: name, next)

/-- Reads a tag: its handle and its suffix. -/
def readTag (inFlow : Bool) (c : Cursor) : Except Fault (TokenKind × Cursor) := do
  let (kind, c) ←
    if c.peek 1 = '<' then do
      let (suffix, next) ← readTagFrom true none (c.skip 2)
      if next.head != '>' then throw .badTag
      pure (TokenKind.tag "" suffix, next.skip 1)
    else
      let (handle, next) := readHandle c
      if handle.getLast? == some '!' && decide (1 < handle.length) then do
        let (suffix, next) ← readTagFrom false none next
        pure (TokenKind.tag (String.ofList handle) suffix, next)
      else do
        let (suffix, next) ← readTagFrom false (some (.ofText (String.ofList (handle.drop 1)))) next
        pure
          (if suffix.bytes.isEmpty then TokenKind.tag "" .nonSpecific
            else TokenKind.tag "!" suffix, next)
  if isGap c.head || (inFlow && c.head = ',') then return (kind, c) else throw .badTag

/-- Reads the name of an anchor or alias, after its first character. -/
def readAnchorName (c : Cursor) : Except Fault (String × Cursor) :=
  let (name, next) := (c.skip 1).span isWordChar
  if !name.isEmpty
      && (isGap next.head || ['?', ':', ',', ']', '}', '%', '@', '\x60'].contains next.head) then
    .ok (String.ofList name, next)
  else .error .badAnchor

def readVersionNumber (c : Cursor) : Except Fault (Nat × Cursor) :=
  let (digits, next) := c.span Char.isDigit
  if digits.isEmpty || decide (9 < digits.length) then .error .badDirective
  else .ok (digits.foldl (fun n d => 10 * n + (d.toNat - 48)) 0, next)

/-- Reads a directive and the rest of its line. -/
def readDirective (c : Cursor) : Except Fault (TokenKind × Cursor) := do
  let (name, next) := (c.skip 1).span isWordChar
  if name.isEmpty || !isGap next.head then throw .badDirective
  let start := next.skipWhile isSpace
  let (kind, c) ←
    if name = "YAML".toList then do
      let (major, next) ← readVersionNumber start
      if next.head != '.' then throw .badDirective
      let (minor, next) ← readVersionNumber (next.skip 1)
      pure (TokenKind.version major minor, next)
    else if name = "TAG".toList then do
      if start.head != '!' then throw .badDirective
      let (handle, next) := readHandle start
      if handle.getLast? != some '!' || !isSpace next.head then throw .badDirective
      let (expansion, next) ← readTagFrom true none (next.skipWhile isSpace)
      if !isGap next.head then throw .badDirective
      pure (TokenKind.tagHandle (String.ofList handle) expansion, next)
    else throw .badDirective
  let c := c.skipWhile isSpace
  let c := if c.head = '#' then c.skipWhile (fun ch => !isLineEnd ch) else c
  if isLineEnd c.head then return (kind, c.readBreak.2) else throw .badDirective

end Yaml
end ClusterNav
