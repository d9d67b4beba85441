import ClusterNav.Text.Emoji
import ClusterNav.Text.Printable

/-!
# Grapheme clusters

A terminal cell holds what a reader takes for one character: a base with its marks, a joined emoji
sequence, a pair of regional indicators, a Hangul syllable or a conjunct of Indic consonants.
`graphemes` cuts a text there and nowhere else.
-/

namespace ClusterNav
namespace Text

/-- Marks that take room of their own but stay with their base. -/
def spacingMarkRanges : Ranges :=
  [(0x903, 0x903), (0x93B, 0x93B), (0x93E, 0x940), (0x949, 0x94C), (0x94E, 0x94F),
   (0x982, 0x983), (0x9BF, 0x9C0), (0x9C7, 0x9C8), (0x9CB, 0x9CC), (0xA03, 0xA03),
   (0xA3E, 0xA40), (0xA83, 0xA83), (0xABE, 0xAC0), (0xAC9, 0xAC9), (0xACB, 0xACC),
   (0xB02, 0xB03), (0xB40, 0xB40), (0xB47, 0xB48), (0xB4B, 0xB4C), (0xBBF, 0xBBF),
   (0xBC1, 0xBC2), (0xBC6, 0xBC8), (0xBCA, 0xBCC), (0xC01, 0xC03), (0xC41, 0xC44),
   (0xC82, 0xC83), (0xCBE, 0xCBE), (0xCC1, 0xCC1), (0xCC3, 0xCC4), (0xCF3, 0xCF3),
   (0xD02, 0xD03), (0xD3F, 0xD40), (0xD46, 0xD48), (0xD4A, 0xD4C), (0xD82, 0xD83),
   (0xDD0, 0xDD1), (0xDD8, 0xDDE), (0xDF2, 0xDF3), (0xE33, 0xE33), (0xEB3, 0xEB3),
   (0xF3E, 0xF3F), (0xF7F, 0xF7F), (0x1031, 0x1031), (0x103B, 0x103C), (0x1056, 0x1057),
   (0x1084, 0x1084), (0x17B6, 0x17B6), (0x17BE, 0x17C5), (0x17C7, 0x17C8), (0x1923, 0x1926),
   (0x1929, 0x192B), (0x1930, 0x1931), (0x1933, 0x1938), (0x1A19, 0x1A1A), (0x1A55, 0x1A55),
   (0x1A57, 0x1A57), (0x1A6D, 0x1A72), (0x1B04, 0x1B04), (0x1B3E, 0x1B41), (0x1B82, 0x1B82),
   (0x1BA1, 0x1BA1), (0x1BA6, 0x1BA7), (0x1BE7, 0x1BE7), (0x1BEA, 0x1BEC), (0x1BEE, 0x1BEE),
   (0x1C24, 0x1C2B), (0x1C34, 0x1C35), (0x1CE1, 0x1CE1), (0x1CF7, 0x1CF7), (0xA823, 0xA824),
   (0xA827, 0xA827), (0xA880, 0xA881), (0xA8B4, 0xA8C3), (0xA952, 0xA952), (0xA983, 0xA983),
   (0xA9B4, 0xA9B5), (0xA9BA, 0xA9BB), (0xA9BE, 0xA9BF), (0xAA2F, 0xAA30), (0xAA33, 0xAA34),
   (0xAA4D, 0xAA4D), (0xAAEB, 0xAAEB), (0xAAEE, 0xAAEF), (0xAAF5, 0xAAF5), (0xABE3, 0xABE4),
   (0xABE6, 0xABE7), (0xABE9, 0xABEA), (0xABEC, 0xABEC), (0x11000, 0x11000), (0x11002, 0x11002),
   (0x11082, 0x11082), (0x110B0, 0x110B2), (0x110B7, 0x110B8), (0x1112C, 0x1112C), (0x11145, 0x11146),
   (0x11182, 0x11182), (0x111B3, 0x111B5), (0x111BF, 0x111BF), (0x111CE, 0x111CE), (0x1122C, 0x1122E),
   (0x11232, 0x11233), (0x112E0, 0x112E2), (0x11302, 0x11303), (0x1133F, 0x1133F), (0x11341, 0x11344),
   (0x11347, 0x11348), (0x1134B, 0x1134C), (0x11362, 0x11363), (0x113B9, 0x113BA), (0x113CA, 0x113CA),
   (0x113CC, 0x113CD), (0x11435, 0x11437), (0x11440, 0x11441), (0x11445, 0x11445), (0x114B1, 0x114B2),
   (0x114B9, 0x114B9), (0x114BB, 0x114BC), (0x114BE, 0x114BE), (0x114C1, 0x114C1), (0x115B0, 0x115B1),
   (0x115B8, 0x115BB), (0x115BE, 0x115BE), (0x11630, 0x11632), (0x1163B, 0x1163C), (0x1163E, 0x1163E),
   (0x116AC, 0x116AC), (0x116AE, 0x116AF), (0x11726, 0x11726), (0x1182C, 0x1182E), (0x11838, 0x11838),
   (0x11931, 0x11935), (0x11937, 0x11938), (0x11940, 0x11940), (0x11942, 0x11942), (0x119D1, 0x119D3),
   (0x119DC, 0x119DF), (0x119E4, 0x119E4), (0x11A39, 0x11A39), (0x11A57, 0x11A58), (0x11A97, 0x11A97),
   (0x11B61, 0x11B61), (0x11B65, 0x11B65), (0x11B67, 0x11B67), (0x11C2F, 0x11C2F), (0x11C3E, 0x11C3E),
   (0x11CA9, 0x11CA9), (0x11CB1, 0x11CB1), (0x11CB4, 0x11CB4), (0x11D8A, 0x11D8E), (0x11D93, 0x11D94),
   (0x11D96, 0x11D96), (0x11EF5, 0x11EF6), (0x11F03, 0x11F03), (0x11F34, 0x11F35), (0x11F3E, 0x11F3F),
   (0x1612A, 0x1612C), (0x16F51, 0x16F87)]

/-- Signs that stay with the character after them. -/
def leadingSignRanges : Ranges :=
  [(0x600, 0x605), (0x6DD, 0x6DD), (0x70F, 0x70F), (0x890, 0x891), (0x8E2, 0x8E2),
   (0xD4E, 0xD4E), (0x110BD, 0x110BD), (0x110CD, 0x110CD), (0x111C2, 0x111C3), (0x113D1, 0x113D1),
   (0x1193F, 0x1193F), (0x11941, 0x11941), (0x11A3A, 0x11A3A), (0x11A84, 0x11A89), (0x11D46, 0x11D46),
   (0x11F02, 0x11F02)]

/-- Separators, format characters and reserved characters that stand alone. -/
def unjoinedRanges : Ranges :=
  [(0xAD, 0xAD), (0x61C, 0x61C), (0x180E, 0x180E), (0x200B, 0x200B), (0x200E, 0x200F),
   (0x2028, 0x202E), (0x2060, 0x206F), (0xFEFF, 0xFEFF), (0xFFF0, 0xFFFB), (0x13430, 0x1343F),
   (0x1BCA0, 0x1BCA3), (0x1D173, 0x1D17A), (0xE0000, 0xE001F), (0xE0080, 0xE00FF), (0xE01F0, 0xE0FFF)]

/-- Consonants that a linker joins to one conjunct. -/
def conjunctConsonantRanges : Ranges :=
  [(0x915, 0x939), (0x958, 0x95F), (0x978, 0x97F), (0x995, 0x9A8), (0x9AA, 0x9B0),
   (0x9B2, 0x9B2), (0x9B6, 0x9B9), (0x9DC, 0x9DD), (0x9DF, 0x9DF), (0x9F0, 0x9F1),
   (0xA95, 0xAA8), (0xAAA, 0xAB0), (0xAB2, 0xAB3), (0xAB5, 0xAB9), (0xAF9, 0xAF9),
   (0xB15, 0xB28), (0xB2A, 0xB30), (0xB32, 0xB33), (0xB35, 0xB39), (0xB5C, 0xB5D),
   (0xB5F, 0xB5F), (0xB71, 0xB71), (0xC15, 0xC28), (0xC2A, 0xC39), (0xC58, 0xC5A),
   (0xD15, 0xD3A)]

/-- Does the character link two consonants to one conjunct? -/
def isLinker (c : Char) : Bool :=
  Ranges.has [(0x94D, 0x94D), (0x9CD, 0x9CD), (0xACD, 0xACD), (0xB4D, 0xB4D), (0xC4D, 0xC4D),
    (0xD4D, 0xD4D)] c

/-- How a character joins its neighbours. -/
inductive JoinClass
  | carriageReturn
  | lineFeed
  | control
  | extending
  | linker
  | nonJoiner
  | joiner
  | spacing
  | leadingSign
  | regional
  | leadingJamo
  | vowelJamo
  | trailingJamo
  | openSyllable
  | closedSyllable
  | pictographic
  | consonant
  | other
deriving DecidableEq, Repr

/-- The joining class of a character. -/
def joinClass (c : Char) : JoinClass :=
  let n := c.toNat
  if n = 0x0D then .carriageReturn
  else if n = 0x0A then .lineFeed
  else if n = 0x200C then .nonJoiner
  else if n = 0x200D then .joiner
  else if isControl c then .control
  else if n < 0xA9 then .other
  else if isLinker c then .linker
  else if isExtending c || isSkinTone c then .extending
  else if spacingMarkRanges.has c then .spacing
  else if leadingSignRanges.has c then .leadingSign
  else if unjoinedRanges.has c then .control
  else if isRegional c then .regional
  else if (0x1100 ≤ n && n ≤ 0x115F) || (0xA960 ≤ n && n ≤ 0xA97C) then .leadingJamo
  else if (0x1160 ≤ n && n ≤ 0x11A7) || (0xD7B0 ≤ n && n ≤ 0xD7C6)
      || Ranges.has [(0x16D63, 0x16D63), (0x16D67, 0x16D6A)] c then .vowelJamo
  else if (0x11A8 ≤ n && n ≤ 0x11FF) || (0xD7CB ≤ n && n ≤ 0xD7FB) then .trailingJamo
  else if 0xAC00 ≤ n && n ≤ 0xD7A3 then
    if (n - 0xAC00) % 28 = 0 then .openSyllable else .closedSyllable
  else if conjunctConsonantRanges.has c then .consonant
  else if isPictographic c then .pictographic
  else .other

/-- Does a character of this class stay with the one before it, whatever that is? -/
def JoinClass.isMark : JoinClass → Bool
  | .extending | .linker | .nonJoiner => true
  | _ => false

/-- How far a cluster has come on the way to a conjunct of consonants. -/
inductive Conjunct
  /-- The cluster does not end in a consonant with marks. -/
  | absent
  /-- It ends in a consonant with marks. -/
  | opened
  /-- It ends in a consonant with marks, a linker among them. -/
  | linked
deriving DecidableEq, Repr

/-- The state of a conjunct after a character. -/
def Conjunct.next (conjunct : Conjunct) : JoinClass → Conjunct
  | .consonant => .opened
  | .linker => if conjunct = .absent then .absent else .linked
  | .extending | .joiner => conjunct
  | _ => .absent

/-- What is remembered of the cluster read so far. -/
structure ClusterState where
  /-- Class of the last character. -/
  last : JoinClass
  /-- The cluster ends in a pictograph with marks. -/
  picture : Bool
  /-- The cluster ends in a pictograph with marks and a joiner. -/
  joinedPicture : Bool
  /-- The cluster ends in a regional indicator, still without its partner. -/
  halfFlag : Bool
  /-- The conjunct that the cluster ends in. -/
  conjunct : Conjunct

/-- The state of a cluster that holds one character. -/
def ClusterState.start (cls : JoinClass) : ClusterState where
  last := cls
  picture := cls == .pictographic
  joinedPicture := false
  halfFlag := cls == .regional
  conjunct := Conjunct.absent.next cls

/-- Does a character of this class stay in the cluster? -/
def ClusterState.joins (st : ClusterState) (cls : JoinClass) : Bool :=
  match st.last, cls with
  | .carriageReturn, .lineFeed => true
  | .carriageReturn, _ | .lineFeed, _ | .control, _ => false
  | _, .carriageReturn | _, .lineFeed | _, .control => false
  | .leadingSign, _ => true
  | _, .joiner | _, .spacing => true
  | .leadingJamo, .leadingJamo | .leadingJamo, .vowelJamo
  | .leadingJamo, .openSyllable | .leadingJamo, .closedSyllable => true
  | .vowelJamo, .vowelJamo | .vowelJamo, .trailingJamo
  | .openSyllable, .vowelJamo | .openSyllable, .trailingJamo => true
  | .trailingJamo, .trailingJamo | .closedSyllable, .trailingJamo => true
  | _, .pictographic => st.joinedPicture
  | _, .regional => st.halfFlag
  | _, .consonant => st.conjunct == .linked
  | _, _ => cls.isMark

/-- The state after a character that stays in the cluster. -/
def ClusterState.extend (st : ClusterState) (cls : JoinClass) : ClusterState where
  last := cls
  picture := cls == .pictographic || (st.picture && cls.isMark)
  joinedPicture := st.picture && cls == .joiner
  halfFlag := cls == .regional && st.last != .regional
  conjunct := st.conjunct.next cls

/-- Cuts the rest of a text, with the open cluster in reverse. -/
def cutGraphemes (st : ClusterState) (cluster : List Char) : List Char → List (List Char)
  | [] => [cluster.reverse]
  | c :: rest =>
    let cls := joinClass c
    if st.joins cls then cutGraphemes (st.extend cls) (c :: cluster) rest
    else cluster.reverse :: cutGraphemes (.start cls) [c] rest

/-- The grapheme clusters of a text, in order. -/
def graphemes : List Char → List (List Char)
  | [] => []
  | c :: rest => cutGraphemes (.start (joinClass c)) [c] rest

end Text
end ClusterNav
