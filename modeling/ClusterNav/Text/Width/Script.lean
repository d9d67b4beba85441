import ClusterNav.Text.Width.Table

/-!
# Letters that are written together

Some scripts draw neighbouring letters as one form, so that the group takes fewer columns than its
letters.  This module names the letters that take part; how a group is read stands with the
sequences.
-/

namespace ClusterNav
namespace Text

/-- An Arabic letter of the lam shape. -/
def isLam (c : Char) : Bool :=
  Ranges.has [(0x644, 0x644), (0x6B5, 0x6B8), (0x76A, 0x76A), (0x8A6, 0x8A6), (0x8C7, 0x8C7)] c

/-- An Arabic letter of the alef shape. -/
def isAlef (c : Char) : Bool :=
  Ranges.has [(0x622, 0x623), (0x625, 0x625), (0x627, 0x627), (0x671, 0x673), (0x675, 0x675),
    (0x773, 0x774), (0x870, 0x882)] c

/-- A Khmer letter that the sign before it writes below the line. -/
def isCoengLetter (c : Char) : Bool :=
  Ranges.has [(0x1780, 0x1782), (0x1784, 0x1787), (0x1789, 0x178C), (0x178E, 0x1793),
    (0x1795, 0x1798), (0x179B, 0x179D), (0x17A0, 0x17A0), (0x17A2, 0x17A2), (0x17A7, 0x17A7),
    (0x17AB, 0x17AC), (0x17AF, 0x17AF)] c

def isTifinaghConsonant (c : Char) : Bool :=
  Ranges.has [(0x2D31, 0x2D65), (0x2D6F, 0x2D6F)] c

/-- A Lisu tone letter that opens a pair. -/
def isOpeningTone (c : Char) : Bool :=
  0xA4F8 ≤ c.toNat && c.toNat ≤ 0xA4FB

/-- A Lisu tone letter that closes a pair. -/
def isClosingTone (c : Char) : Bool :=
  0xA4FC ≤ c.toNat && c.toNat ≤ 0xA4FD

/-- A quotation mark that has a narrow and a wide form. -/
def isCurlyQuote (c : Char) : Bool :=
  c.toNat == 0x2018 || c.toNat == 0x2019 || c.toNat == 0x201C || c.toNat == 0x201D

def isJoiner (c : Char) : Bool :=
  c.toNat == 0x200D

/-- A mark without a shape, which no group of letters is broken by. -/
def isShapelessMark (c : Char) : Bool :=
  Ranges.has [(0x34F, 0x34F), (0x17B4, 0x17B5), (0x180B, 0x180D), (0x180F, 0x180F),
    (0xFE00, 0xFE0F), (0xE0100, 0xE01EF)] c

/-- Has the character no column of its own? -/
def isZeroWidth (c : Char) : Bool :=
  zeroWidthRanges.has c

/-- A mark that two joined Arabic letters carry between them. -/
def isTransparent (c : Char) : Bool :=
  isZeroWidth c && !separatingRanges.has c

end Text
end ClusterNav
