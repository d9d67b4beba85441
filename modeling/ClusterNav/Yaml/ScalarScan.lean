import ClusterNav.Yaml.Cursor

/-!
# Reading scalars

The three ways a scalar stands in a text: plainly, between quotes, or as a block of lines.  Each
reader gives the text of the scalar and the cursor after it.
-/

namespace ClusterNav
namespace Yaml

/-! ## Plain scalars -/

/-- The characters of a plain scalar up to the next gap or indicator. -/
def plainRun (inFlow : Bool) : List Char → Except Fault (List Char)
  | [] => .ok []
  | c :: rest =>
    let following := rest.headD endMark
    if isGap c then .ok []
    else if inFlow && c = ':' && (isFlowIndicator following || following = '?') then
      .error .misplacedCharacter
    else if (c = ':' && isGap following) || (inFlow && isFlowIndicator c) then .ok []
    else (plainRun inFlow rest).map (c :: ·)

/-- What a plain scalar read: its text, the cursor after it, and whether it ended on a new line. -/
structure PlainResult where
  text : List Char
  cursor : Cursor
  onNewLine : Bool

/-- Reads the rest of a plain scalar. -/
def readPlainFrom (inFlow : Bool) (indent : Int) :
    Nat → List Char → Gap → Cursor → Except Fault PlainResult
  | 0, text, gap, c => .ok ⟨text, c, gap.broken⟩
  | fuel + 1, text, gap, c => do
    if c.atDocumentMarker || c.head = '#' then
      return ⟨text, c, gap.broken⟩
    let run ← plainRun inFlow c.rest
    let text := if run.isEmpty then text else text ++ gap.folded ++ run
    let gap := if run.isEmpty then gap else {}
    let c := c.skip run.length
    if !(isSpace c.head || isBreak c.head) then
      return ⟨text, c, gap.broken⟩
    let (gap, c) ← gap.read (some indent) c.rest.length c
    if !inFlow && (c.mark.column : Int) < indent then
      return ⟨text, c, gap.broken⟩
    readPlainFrom inFlow indent fuel text gap c

/-- Reads a plain scalar that may go on at an indentation. -/
def readPlain (inFlow : Bool) (indent : Int) (c : Cursor) : Except Fault PlainResult :=
  readPlainFrom inFlow indent (c.rest.length + 1) [] {} c

/-! ## Quoted scalars -/

def shortEscape (c : Char) : Option Char :=
  match c with
  | '0' => some '\x00'
  | 'a' => some '\x07'
  | 'b' => some '\x08'
  | 't' | '\t' => some '\t'
  | 'n' => some '\n'
  | 'v' => some '\x0b'
  | 'f' => some '\x0c'
  | 'r' => some '\r'
  | 'e' => some '\x1b'
  | ' ' => some ' '
  | '\x22' => some '\x22'
  | '/' => some '/'
  | '\\' => some '\\'
  | 'N' => some '\u0085'
  | '_' => some '\u00a0'
  | 'L' => some '\u2028'
  | 'P' => some '\u2029'
  | _ => none

/-- The number of hexadecimal digits of a long escape. -/
def longEscape? (c : Char) : Option Nat :=
  match c with
  | 'x' => some 2
  | 'u' => some 4
  | 'U' => some 8
  | _ => none

def hexDigit? (c : Char) : Option Nat :=
  if c.isDigit then some (c.toNat - 48)
  else if 'a' ≤ c ∧ c ≤ 'f' then some (c.toNat - 87)
  else if 'A' ≤ c ∧ c ≤ 'F' then some (c.toNat - 55)
  else none

def charOfCode? (n : Nat) : Option Char :=
  if n < 0xD800 || (0xE000 ≤ n && n < 0x110000) then some (Char.ofNat n) else none

/-- The character that `width` hexadecimal digits give. -/
def readHex? (width : Nat) (cs : List Char) : Option Char :=
  let digits := cs.take width
  if digits.length < width then none
  else (digits.foldlM (fun n c => (hexDigit? c).map (16 * n + ·)) 0).bind charOfCode?

/-- Reads the escape after a backslash: its character and its length. -/
def readEscape (cs : List Char) : Except Fault (Char × Nat) :=
  match cs with
  | [] => .error .badEscape
  | c :: rest =>
    match shortEscape c, longEscape? c with
    | some value, _ => .ok (value, 1)
    | none, some width =>
      match readHex? width rest with
      | some value => .ok (value, width + 1)
      | none => .error .badEscape
    | none, none => .error .badEscape

/-- What stands between quotes up to the next gap: the text, the cursor after it, and whether a
backslash hid a line end. -/
structure QuotedRun where
  text : List Char
  cursor : Cursor
  hidBreak : Bool

/-- Reads between quotes up to the next gap or the closing quote. -/
def readRun (single : Bool) : Nat → List Char → Cursor → Except Fault QuotedRun
  | 0, text, c => .ok ⟨text, c, false⟩
  | fuel + 1, text, c =>
    let quote := if single then '\x27' else '\x22'
    if isGap c.head then .ok ⟨text, c, false⟩
    else if single && c.head = quote && c.peek 1 = quote then
      readRun single fuel (text ++ [quote]) (c.skip 2)
    else if c.head = quote then .ok ⟨text, c, false⟩
    else if !single && c.head = '\\' then
      if isBreak (c.peek 1) then .ok ⟨text, (c.skip 1).readBreak.2, true⟩
      else do
        let (value, length) ← readEscape (c.rest.drop 1)
        readRun single fuel (text ++ [value]) (c.skip (length + 1))
    else readRun single fuel (text ++ [c.head]) (c.skip 1)

/-- Reads the rest of a quoted scalar. -/
def readQuotedFrom (single : Bool) : Nat → List Char → Cursor →
    Except Fault (List Char × Cursor)
  | 0, _, _ => .error .openQuote
  | fuel + 1, text, c => do
    if c.atDocumentMarker || c.rest.isEmpty then
      throw .openQuote
    let run ← readRun single (c.rest.length + 1) text c
    let c := run.cursor
    if c.head = (if single then '\x27' else '\x22') then
      return (run.text, c.skip 1)
    let (gap, c) ← Gap.read none c.rest.length { broken := run.hidBreak } c
    readQuotedFrom single fuel (run.text ++ gap.folded) c

/-- Reads a quoted scalar, from its opening quote on. -/
def readQuoted (single : Bool) (c : Cursor) : Except Fault (List Char × Cursor) :=
  readQuotedFrom single (c.rest.length + 1) [] (c.skip 1)

/-! ## Block scalars -/

/-- What happens to the line ends after the last line of a block. -/
inductive Chomp
  | strip
  | clip
  | keep
deriving DecidableEq, Repr

/-- Reads the chomping mark, if there is one. -/
def readChomp (c : Cursor) : Option Chomp × Cursor :=
  match c.head with
  | '+' => (some .keep, c.skip 1)
  | '-' => (some .strip, c.skip 1)
  | _ => (none, c)

/-- Reads the indentation mark, if there is one. -/
def readIncrement (c : Cursor) : Except Fault (Option Nat × Cursor) :=
  if c.head.isDigit then
    if c.head = '0' then .error .badBlockHeader
    else .ok (some (c.head.toNat - 48), c.skip 1)
  else .ok (none, c)

/-- Reads the marks after the bar or angle of a block, in either order. -/
def readBlockMarks (c : Cursor) : Except Fault (Chomp × Option Nat × Cursor) := do
  match readChomp c with
  | (some chomp, c) =>
    let (increment, c) ← readIncrement c
    return (chomp, increment, c)
  | (none, c) =>
    let (increment, c) ← readIncrement c
    match increment with
    | none => return (.clip, none, c)
    | some n =>
      let (chomp, c) := readChomp c
      return (chomp.getD .clip, some n, c)

/-- Eats spaces and a comment up to the end of the line, and the line end. -/
def finishLine (fault : Fault) (c : Cursor) : Except Fault Cursor :=
  let c := c.skipWhile isSpace
  let c := if c.head = '#' then c.skipWhile (fun ch => !isLineEnd ch) else c
  if isLineEnd c.head then .ok c.readBreak.2 else .error fault

/-- Eats indentation and empty lines.  Without a known indentation all spaces are eaten.  Gives the
line ends and the deepest column reached. -/
def readEmptyLines (indent : Option Nat) : Nat → List Char → Nat → Cursor →
    Except Fault (List Char × Nat × Cursor)
  | 0, breaks, deepest, c => .ok (breaks, deepest, c)
  | fuel + 1, breaks, deepest, c =>
    let room := match indent with
      | some n => n - c.mark.column
      | none => c.rest.length
    let c := c.skip ((c.rest.take room).takeWhile (· == ' ')).length
    let deepest := max deepest c.mark.column
    if c.head = '\t' && indent.all fun n => c.mark.column < n then .error .misplacedTab
    else if isBreak c.head then
      let (b, next) := c.readBreak
      readEmptyLines indent fuel (breaks ++ b) deepest next
    else .ok (breaks, deepest, c)

/-- Reads the lines of a block at their indentation.  `leading` is the line end of the line before,
`trailing` the empty lines after it, and `spaced` says whether that line started with a space. -/
def readBlockLines (folds : Bool) (chomp : Chomp) (indent : Nat) :
    Nat → List Char → List Char → List Char → Bool → Cursor → Except Fault (List Char × Cursor)
  | 0, text, _, _, _, c => .ok (text, c)
  | fuel + 1, text, leading, trailing, spaced, c => do
    if c.mark.column = indent && !c.rest.isEmpty then
      let startsSpaced := isSpace c.head
      let joint :=
        if folds && leading == ['\n'] && !spaced && !startsSpaced then
          (if trailing.isEmpty then [' '] else [])
        else leading
      let (line, c) := c.span fun ch => !isLineEnd ch
      let (leading, c) := c.readBreak
      let (breaks, _, c) ← readEmptyLines (some indent) (c.rest.length + 1) [] 0 c
      readBlockLines folds chomp indent fuel (text ++ joint ++ trailing ++ line) leading breaks
        startsSpaced c
    else
      let text := if chomp = .strip then text else text ++ leading
      return (if chomp = .keep then text ++ trailing else text, c)

/-- Reads a block scalar, from its bar or angle on, inside a node at an indentation. -/
def readBlock (folds : Bool) (parent : Int) (c : Cursor) : Except Fault (List Char × Cursor) := do
  let (chomp, increment, c) ← readBlockMarks (c.skip 1)
  let c ← finishLine .badBlockHeader c
  let known := increment.map fun n => (max parent 0).toNat + n
  let (breaks, deepest, c) ← readEmptyLines known (c.rest.length + 1) [] 0 c
  let indent := known.getD (max (max deepest (parent + 1).toNat) 1)
  readBlockLines folds chomp indent (c.rest.length + 1) [] [] breaks false c

end Yaml
end ClusterNav
