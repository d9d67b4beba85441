/-!
# Characters of YAML

The classes of characters that YAML tells apart.  The end of a text counts as the character NUL,
which cannot stand in one.
-/

namespace ClusterNav
namespace Yaml

def isBreak (c : Char) : Bool :=
  c = '\n' || c = '\r' || c.toNat = 0x85 || c.toNat = 0x2028 || c.toNat = 0x2029

/-- Stands for the end of a text. -/
def endMark : Char := '\x00'

/-- The byte order mark, which may stand at the start of a line and counts as one of its columns. -/
def isOrderMark (c : Char) : Bool :=
  c.toNat = 0xFEFF

/-- Is the character a space or a tab? -/
def isSpace (c : Char) : Bool :=
  c = ' ' || c = '\t'

/-- Is the character a space, a tab, a line end or the end of a text? -/
def isGap (c : Char) : Bool :=
  isSpace c || c = endMark || isBreak c

/-- May the character stand in a document as it is? -/
def isShown (c : Char) : Bool :=
  let n := c.toNat
  n = 0x0A || (0x20 ≤ n && n ≤ 0x7E) || (0xA0 ≤ n && n ≤ 0xD7FF)
    || (0xE000 ≤ n && n ≤ 0xFFFD && n != 0xFEFF) || 0x10000 ≤ n

/-- Is the character a line end or the end of a text? -/
def isLineEnd (c : Char) : Bool :=
  isBreak c || c = endMark

/-- May the character stand in a text to be read? -/
def isReadable (c : Char) : Bool :=
  let n := c.toNat
  n = 0x09 || n = 0x0A || n = 0x0D || (0x20 ≤ n && n ≤ 0x7E) || n = 0x85
    || (0xA0 ≤ n && n ≤ 0xD7FF) || (0xE000 ≤ n && n ≤ 0xFFFD) || 0x10000 ≤ n

/-- Is the character a letter, a digit, a dash or an underscore? -/
def isWordChar (c : Char) : Bool :=
  c.isAlphanum || c = '_' || c = '-'

/-- Is the character an indicator of flow collections? -/
def isFlowIndicator (c : Char) : Bool :=
  c = ',' || c = '[' || c = ']' || c = '{' || c = '}'

end Yaml
end ClusterNav
