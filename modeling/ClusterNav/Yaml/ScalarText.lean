import ClusterNav.Text.Fit
import ClusterNav.Yaml.Char
import ClusterNav.Yaml.Scalar

/-!
# Written scalars

How a text is written in a document so that it reads back as the same text: plainly when nothing in
it could be taken for something else, in single quotes when something could, as a literal block when
it has lines, and in double quotes with escapes when it holds what the other forms cannot.
-/

namespace ClusterNav
namespace Yaml

/-- The written forms of a text. -/
inductive Form
  | plain
  | single
  | double
  | literal
deriving DecidableEq, Repr

/-- Is there a pair of neighbours of two sorts? -/
def hasNeighbours (p q : Char → Bool) : List Char → Bool
  | a :: b :: rest => (p a && q b) || hasNeighbours p q (b :: rest)
  | _ => false

/-- Characters that cannot start a plain text. -/
def reserved : List Char :=
  ['#', ',', '[', ']', '{', '}', '&', '*', '!', '|', '>', '\x27', '\x22', '%', '@', '\x60']

/-- Would the start of the text be read as an indicator? -/
def startsAsIndicator : List Char → Bool
  | [] => false
  | c :: rest =>
    reserved.contains c
      || ((c = '?' || c = ':' || c = '-') && rest.head?.all isGap)
      || ['-', '-', '-'].isPrefixOf (c :: rest) || ['.', '.', '.'].isPrefixOf (c :: rest)

/-- Would a later part of the text be read as an indicator?  A colon before a gap ends a key, and a
number sign after a gap starts a comment. -/
def holdsIndicator (cs : List Char) : Bool :=
  hasNeighbours (· == ':') isGap cs || cs.getLast? == some ':' || hasNeighbours isGap (· == '#') cs

def isMultiline (cs : List Char) : Bool :=
  cs.any isBreak

/-- Are there spaces at the end of a line, or characters that are not shown? -/
def needsEscapes (cs : List Char) : Bool :=
  hasNeighbours (· == ' ') isBreak cs || !cs.all isShown

/-- Are there spaces at the start of a later line? -/
def hasIndentedLine (cs : List Char) : Bool :=
  hasNeighbours isBreak (· == ' ') cs

def plainAllowed (cs : List Char) : Bool :=
  !isMultiline cs && !needsEscapes cs && cs.head? != some ' ' && cs.getLast? != some ' '
    && !startsAsIndicator cs && !holdsIndicator cs

/-- May the text be written in single quotes? -/
def singleAllowed (cs : List Char) : Bool :=
  !needsEscapes cs && !hasIndentedLine cs

/-- May the text be written as a literal block? -/
def literalAllowed (cs : List Char) : Bool :=
  !cs.isEmpty && !needsEscapes cs && cs.getLast? != some ' '

/-- Would the plain text be read as something other than a text? -/
def isAmbiguous (s : String) : Bool :=
  match resolve s with
  | .text => isZeroLed s.toList
  | _ => true

/-- The form in which a text is written; a key stays on its line. -/
def formOf (isKey : Bool) (s : String) : Form :=
  let cs := s.toList
  if isKey && isMultiline cs then .double
  else if cs.contains '\n' then (if literalAllowed cs then .literal else .double)
  else if !isAmbiguous s && plainAllowed cs then .plain
  else if singleAllowed cs then .single
  else .double

/-- The hexadecimal digits of a number, in capitals, padded with zeros. -/
def paddedHex (n width : Nat) : List Char :=
  let digits := (Nat.toDigits 16 n).map Char.toUpper
  List.replicate (width - digits.length) '0' ++ digits

/-- The letter of the short escape of a character. -/
def shortEscape? (c : Char) : Option Char :=
  match c.toNat with
  | 0x00 => some '0'
  | 0x07 => some 'a'
  | 0x08 => some 'b'
  | 0x09 => some 't'
  | 0x0A => some 'n'
  | 0x0B => some 'v'
  | 0x0C => some 'f'
  | 0x0D => some 'r'
  | 0x1B => some 'e'
  | 0x22 => some '\x22'
  | 0x5C => some '\\'
  | 0x85 => some 'N'
  | 0xA0 => some '_'
  | 0x2028 => some 'L'
  | 0x2029 => some 'P'
  | _ => none

/-- A character between double quotes. -/
def doubleQuotedChar (c : Char) : List Char :=
  if isShown c && !isBreak c && c != '\x22' && c != '\\' then [c]
  else
    '\\' ::
      match shortEscape? c with
      | some letter => [letter]
      | none =>
        if c.toNat ≤ 0xFF then 'x' :: paddedHex c.toNat 2
        else if c.toNat ≤ 0xFFFF then 'u' :: paddedHex c.toNat 4
        else 'U' :: paddedHex c.toNat 8

/-- Characters whose line ends stay as they are, every line after one at the indentation. -/
def indentedChars (indent : Nat) (broken : Bool) : List Char → List Char
  | [] => []
  | c :: rest =>
    if isBreak c then c :: indentedChars indent true rest
    else
      (if broken then List.replicate indent ' ' else []) ++ c :: indentedChars indent false rest

/-- The text between single quotes; a quote is written twice. -/
def singleQuotedChars (indent : Nat) (cs : List Char) : List Char :=
  indentedChars indent false (cs.flatMap fun c => if c = '\x27' then ['\x27', '\x27'] else [c])
    ++ (if cs.getLast?.any isBreak then List.replicate indent ' ' else [])

/-- The mark after the bar of a literal block: the indentation when the first line does not show it,
and what happens to the line ends after the last line. -/
def literalHeader (cs : List Char) : String :=
  let indentation := if cs.head?.any fun c => c = ' ' || isBreak c then "2" else ""
  let ends :=
    match cs.reverse with
    | a :: b :: _ => if !isBreak a then "-" else if isBreak b then "+" else ""
    | [a] => if isBreak a then "+" else "-"
    | [] => "-"
  "|" ++ indentation ++ ends

/-- The text in its form without the line end after it; a literal block brings its own. -/
def written (indent : Nat) (form : Form) (s : String) : String :=
  let cs := s.toList
  match form with
  | .plain => s
  | .single => String.ofList ('\x27' :: singleQuotedChars indent cs ++ ['\x27'])
  | .double => String.ofList ('\x22' :: cs.flatMap doubleQuotedChar ++ ['\x22'])
  | .literal => literalHeader cs ++ "\n" ++ String.ofList (indentedChars indent true cs)

/-- A text as the key of its line. -/
def keyText (indent : Nat) (s : String) : String :=
  written indent (formOf true s) s

/-- A text with the line end after it.  A literal block that ends in a line end has none to add. -/
def scalarText (indent : Nat) (s : String) : String :=
  let form := formOf false s
  written indent form s
    ++ (if form = .literal && s.toList.getLast?.any isBreak then "" else "\n")

end Yaml
end ClusterNav
