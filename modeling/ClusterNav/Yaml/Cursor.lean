import ClusterNav.Yaml.Char
import ClusterNav.Yaml.Token

/-!
# Cursors

A cursor is the rest of a text and the mark it stands at.  Line ends are read as line feeds, except
for the line and paragraph separators, which stay what they are.  A `Gap` is a run of spaces and line
ends inside a scalar; it folds to the characters that stand for it.
-/

namespace ClusterNav
namespace Yaml

/-- The rest of a text, and where it starts. -/
structure Cursor where
  rest : List Char
  mark : Mark := {}
deriving Repr, Inhabited

namespace Cursor

/-- The character some places ahead, or the end mark. -/
def peek (c : Cursor) (ahead : Nat) : Char :=
  c.rest[ahead]?.getD endMark

/-- The next character, or the end mark. -/
def head (c : Cursor) : Char :=
  c.rest.headD endMark

/-- The number of bytes of some characters in UTF-8. -/
def byteLength (cs : List Char) : Nat :=
  cs.foldl (fun n c => n + c.utf8Size) 0

/-- The cursor after some characters of its line. -/
def skip (c : Cursor) (n : Nat) : Cursor :=
  let passed := c.rest.take n
  { rest := c.rest.drop n
    mark :=
      { c.mark with
        index := c.mark.index + byteLength passed
        column := c.mark.column + passed.length } }

/-- The cursor after all next characters of a class. -/
def skipWhile (p : Char → Bool) (c : Cursor) : Cursor :=
  c.skip (c.rest.takeWhile p).length

/-- The next characters of a class, and the cursor after them. -/
def span (p : Char → Bool) (c : Cursor) : List Char × Cursor :=
  let cs := c.rest.takeWhile p
  (cs, c.skip cs.length)

/-- Reads a line end, if the cursor stands at one. -/
def readBreak (c : Cursor) : List Char × Cursor :=
  let down := fun (passed rest : List Char) =>
    { rest := rest, mark := ⟨c.mark.index + byteLength passed, c.mark.line + 1, 0⟩ : Cursor }
  match c.rest with
  | '\r' :: '\n' :: rest => (['\n'], down ['\r', '\n'] rest)
  | b :: rest =>
    if isBreak b then
      (if b.toNat = 0x2028 || b.toNat = 0x2029 then [b] else ['\n'], down [b] rest)
    else ([], c)
  | [] => ([], c)

/-- Do a document marker of three characters and a gap stand here, at the start of a line? -/
def atMarker (c : Cursor) (marker : Char) : Bool :=
  c.mark.column = 0 && c.peek 0 = marker && c.peek 1 = marker && c.peek 2 = marker
    && isGap (c.peek 3)

/-- Does a document start or end here? -/
def atDocumentMarker (c : Cursor) : Bool :=
  c.atMarker '-' || c.atMarker '.'

end Cursor

/-- A run of spaces and line ends inside a scalar. -/
structure Gap where
  /-- Spaces before the first line end. -/
  spaces : List Char := []
  /-- The first line end. -/
  first : List Char := []
  /-- The other line ends. -/
  more : List Char := []
  /-- Is there a line end? -/
  broken : Bool := false
deriving Repr, Inhabited

namespace Gap

/-- The characters that stand for the gap: one line end becomes a space, of several the first is
dropped. -/
def folded (g : Gap) : List Char :=
  if g.broken then
    if g.first == ['\n'] then (if g.more.isEmpty then [' '] else g.more)
    else g.first ++ g.more
  else g.spaces

/-- Reads a gap.  In a plain scalar a tab may not stand left of the indentation. -/
def read (indent : Option Int) : Nat → Gap → Cursor → Except Fault (Gap × Cursor)
  | 0, g, c => .ok (g, c)
  | fuel + 1, g, c =>
    if isSpace c.head then
      if g.broken && c.head = '\t' && indent.any fun n => (c.mark.column : Int) < n then
        .error .misplacedTab
      else if g.broken then read indent fuel g (c.skip 1)
      else read indent fuel { g with spaces := g.spaces ++ [c.head] } (c.skip 1)
    else if isBreak c.head then
      let (b, next) := c.readBreak
      if g.broken then read indent fuel { g with more := g.more ++ b } next
      else read indent fuel { g with spaces := [], first := b, broken := true } next
    else .ok (g, c)

end Gap
end Yaml
end ClusterNav
