import ClusterNav.Text.Emoji
import ClusterNav.Text.Width.Script

/-!
# Sequences of characters that share their columns

A text is measured from its end.  What stands right after a character is remembered as far as it can
change the columns of the characters before it: the start of an emoji sequence or of a group of
letters, and a variation selector.  `Follower.step` reads one character more; it answers the columns
the character adds, which are negative when it takes back columns that its followers were given.
-/

namespace ClusterNav
namespace Text

/-- Columns of a character on its own. -/
def charWidth (c : Char) : Nat :=
  if c.toNat ≤ 0xA0 then 1
  else if c.toNat = 0x115F || c.toNat = 0x17A4 then 2
  else if c.toNat = 0x17D8 then 3
  else if isZeroWidth c then 0
  else if wideRanges.has c then 2
  else 1

/-- The start of a sequence, as it is known from the characters read. -/
inductive SequenceStart
  /-- Nothing that the character before could join. -/
  | plain
  /-- A line feed, which a carriage return joins. -/
  | lineFeed
  /-- A skin tone. -/
  | tone
  /-- One half of a flag. -/
  | halfFlag
  /-- Several halves of flags. -/
  | flags
  /-- A picture. -/
  | picture
  /-- A joiner before a picture. -/
  | joined
  /-- The keycap frame, with a joiner and a picture after it. -/
  | joinedKeycap
  /-- One half of a flag, with a joiner and a picture after it. -/
  | joinedHalfFlag
  /-- Whole flags, with a joiner and a picture after them. -/
  | joinedEvenFlags
  /-- Whole flags and a half, with a joiner and a picture after them. -/
  | joinedOddFlags
  /-- So many letters of the tags of a region, up to their end. -/
  | tagLetters (count : Nat)
  /-- So many digits of the tags of a region, before its letters. -/
  | tagDigits (count : Nat)
  /-- An Arabic alef. -/
  | alef
  /-- A Hebrew lamed, perhaps with a joiner before it. -/
  | lamed (hasJoiner : Bool)
  /-- A Buginese ya, perhaps with a joiner before it. -/
  | ya (hasJoiner : Bool)
  /-- The Buginese vowel sign i, a joiner and ya. -/
  | vowelYa
  /-- A Tifinagh consonant, perhaps with a joiner before it. -/
  | consonant (hasJoiner : Bool)
  /-- The Tifinagh consonant joiner before a consonant. -/
  | joinedConsonant
  /-- A closing Lisu tone letter. -/
  | closingTone
  /-- An Old Turkic i, perhaps with a joiner before it. -/
  | orkhonI (hasJoiner : Bool)
  /-- A Khmer letter that can stand below the line. -/
  | coengLetter
  /-- The Kirat Rai vowel sign e. -/
  | kiratE
  /-- The Kirat Rai vowel sign ai. -/
  | kiratAi
deriving DecidableEq, Repr

namespace SequenceStart

/-- The sequence that a character starts on its own. -/
def ofChar (c : Char) : SequenceStart :=
  let n := c.toNat
  if n < 0x5DC then .plain
  else if isRegional c then .halfFlag
  else if isSkinTone c then .tone
  else if isPicture c then .picture
  else if isAlef c then .alef
  else if n = 0x5DC then .lamed false
  else if n = 0x1A10 then .ya false
  else if isTifinaghConsonant c then .consonant false
  else if isClosingTone c then .closingTone
  else if n = 0x10C03 then .orkhonI false
  else if isCoengLetter c then .coengLetter
  else if n = 0x16D67 then .kiratE
  else if n = 0x16D68 then .kiratAi
  else .plain

/-- Starts of letter groups outlive a variation selector. -/
def isLetterGroup : SequenceStart → Bool
  | .alef | .lamed _ | .ya _ | .vowelYa | .consonant _ | .joinedConsonant | .closingTone
  | .orkhonI _ | .coengLetter => true
  | _ => false

/-- Starts of letter groups that shapeless marks and joiners do not break. -/
def looksThrough : SequenceStart → Bool
  | .alef => false
  | start => start.isLetterGroup

/-- Does a picture before the sequence fuse with it? -/
def fuses : SequenceStart → Bool
  | .joined | .joinedKeycap => true
  | _ => false

/-- A letter group with a joiner before it. -/
def withJoiner : SequenceStart → SequenceStart
  | .lamed _ => .lamed true
  | .ya _ => .ya true
  | .consonant _ => .consonant true
  | .orkhonI _ => .orkhonI true
  | start => start

/-- A letter that joins the letter group after it, with the columns it adds. -/
def letterBefore (start : SequenceStart) (c : Char) : Option (Int × SequenceStart) :=
  let n := c.toNat
  match start with
  | .alef =>
    if isLam c then some (0, .plain)
    else if isTransparent c then some (0, .alef)
    else none
  | .lamed true => if n = 0x5D0 then some (0, .plain) else none
  | .coengLetter => if n = 0x17D2 then some (-1, .plain) else none
  | .ya true => if n = 0x1A17 then some (0, .vowelYa) else none
  | .vowelYa => if n = 0x1A15 then some (0, .plain) else none
  | .consonant hasJoiner =>
    if n = 0x2D7F then some (1, .joinedConsonant)
    else if hasJoiner && isTifinaghConsonant c then some (0, .plain)
    else none
  | .joinedConsonant => if isTifinaghConsonant c then some (-1, .plain) else none
  | .closingTone => if isOpeningTone c then some (0, .plain) else none
  | .orkhonI true => if n = 0x10C32 then some (0, .plain) else none
  | .kiratE =>
    if n = 0x16D63 || n = 0x16D69 then some (0, .plain)
    else if n = 0x16D67 then some (0, .kiratAi)
    else if n = 0x16D68 then some (1, .kiratE)
    else none
  | .kiratAi => if n = 0x16D63 then some (0, .plain) else none
  | _ => none

/-- A tag character that stands for a small letter. -/
def isTagLetter (c : Char) : Bool :=
  0xE0061 ≤ c.toNat && c.toNat ≤ 0xE007A

/-- A tag character that stands for a digit. -/
def isTagDigit (c : Char) : Bool :=
  0xE0030 ≤ c.toNat && c.toNat ≤ 0xE0039

/-- The flag that tags draw the arms of a region on. -/
def isTaggedFlag (c : Char) : Bool :=
  c.toNat == 0x1F3F4

/-- A character that joins the emoji sequence after it, with the columns it adds. -/
def emojiBefore (start : SequenceStart) (c : Char) : Option (Int × SequenceStart) :=
  match start with
  | .tone =>
    if takesTone c then some (0, .picture)
    else if isJoiner c then some (0, .joined)
    else none
  | .halfFlag => if isRegional c then some (1, .flags) else none
  | .flags =>
    if isRegional c then some (1, .flags)
    else if isJoiner c then some (0, .joined)
    else none
  | .picture => if isJoiner c then some (0, .joined) else none
  | .joined =>
    if c.toNat = 0x20E3 then some (0, .joinedKeycap)
    else if isRegional c then some (1, .joinedHalfFlag)
    else if isSkinTone c then some (0, .tone)
    else if c.toNat = 0xE007F then some (0, .tagLetters 0)
    else if isPicture c then some (0, .picture)
    else none
  | .joinedHalfFlag => if isRegional c then some (-1, .joinedEvenFlags) else none
  | .joinedEvenFlags =>
    if isRegional c then some (3, .joinedOddFlags)
    else if isJoiner c then some (0, .joined)
    else none
  | .joinedOddFlags =>
    if isRegional c then some (-1, .joinedEvenFlags)
    else if isJoiner c then some (0, .joined)
    else none
  | .tagLetters count =>
    if isTagLetter c && count < 6 then some (0, .tagLetters (count + 1))
    else if isTagDigit c && count < 5 then some (0, .tagDigits 1)
    else if isTaggedFlag c && 3 ≤ count then some (0, .picture)
    else none
  | .tagDigits count =>
    if isTagDigit c && count < 3 then some (0, .tagDigits (count + 1))
    else if isTaggedFlag c && count = 3 then some (0, .picture)
    else none
  | _ => none

/-- Reads the character before a sequence: its columns, and the sequence that starts with it. -/
def before (start : SequenceStart) (c : Char) : Int × SequenceStart :=
  if start.looksThrough && isJoiner c then (0, start.withJoiner)
  else if start.looksThrough && isShapelessMark c then (0, start)
  else
    match start.letterBefore c, start.emojiBefore c with
    | some read, _ => read
    | none, some read => read
    | none, none => (charWidth c, ofChar c)

end SequenceStart

/-- A character that chooses a form of the character before it. -/
inductive FormSelector
  | wide
  | text
  | picture
deriving DecidableEq, Repr

def FormSelector.ofChar? (c : Char) : Option FormSelector :=
  if c.toNat = 0xFE01 then some .wide
  else if c.toNat = 0xFE0E then some .text
  else if c.toNat = 0xFE0F then some .picture
  else none

/-- The columns of a character in the form that the selector after it chooses. -/
def FormSelector.columns? (selector : FormSelector) (c : Char) : Option Nat :=
  match selector with
  | .wide => if isCurlyQuote c then some 2 else none
  | .text =>
    if hasTwoForms c && isPicture c && !(0x1F200 ≤ c.toNat && c.toNat ≤ 0x1F2FF) then some 1
    else none
  | .picture => if hasTwoForms c then some 2 else none

/-- What stands right after a character. -/
structure Follower where
  /-- The sequence that the selector, or else the character, may join. -/
  start : SequenceStart
  /-- The selector before the sequence. -/
  selector : Option FormSelector
deriving DecidableEq, Repr

namespace Follower

/-- A sequence without a selector before it. -/
def ofStart (start : SequenceStart) : Follower where
  start := start
  selector := none

/-- Nothing that changes the character before it, as at the end of a text. -/
def nothing : Follower :=
  .ofStart .plain

/-- The sequence, when the selector before it found nothing to select. -/
def bare (after : Follower) : SequenceStart :=
  if after.selector = some .picture && !after.start.isLetterGroup then .plain else after.start

/-- A selector before a sequence: letter groups stay open, and a joined picture waits for the
picture that the selector makes. -/
def select (start : SequenceStart) (selector : FormSelector) : Follower where
  start :=
    if start.isLetterGroup || (selector = .picture && start.fuses) then start else .plain
  selector := some selector

/-- Reads one character more: the columns it adds and what then stands right after the next. -/
def step (after : Follower) (c : Char) : Int × Follower :=
  if after.selector = some .picture && hasTwoForms c then
    (if after.start.fuses then 0 else 2, .ofStart .picture)
  else if c = '\n' then (1, .ofStart .lineFeed)
  else if c = '\r' && after.start = .lineFeed then (0, .nothing)
  else if c.toNat ≤ 0xA0 then (1, .nothing)
  else
    match FormSelector.ofChar? c, after.selector.bind (·.columns? c) with
    | some selector, _ => (0, select after.bare selector)
    | none, some columns => (columns, .nothing)
    | none, none =>
      let (columns, start) := after.bare.before c
      (columns, .ofStart start)

end Follower

end Text
end ClusterNav
