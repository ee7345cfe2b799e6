import ChomskyChart.Unicode.Conjunct
import ChomskyChart.Unicode.GraphemeExtend
import ChomskyChart.Unicode.Pictograph
import ChomskyChart.Unicode.SpacingMark

/-!
# Classes of characters at the edges of a cluster

A cluster is what a reader takes for one character. Where one ends is decided by classes of
characters: the property Grapheme_Cluster_Break by version 17.0 of the standard, with
pictographs and conjunct consonants as classes of their own.
-/
namespace ChomskyChart.Unicode

/-- A syllable is `open` if it is a leading consonant and a vowel, and `closed` if a trailing
consonant follows. -/
inductive Hangul
  | leading
  | vowel
  | trailing
  | openSyllable
  | closedSyllable
deriving DecidableEq

inductive ClusterBreak
  | other
  | carriageReturn
  | lineFeed
  | control
  | extend
  | joiner
  | spacingMark
  | prepend
  | regional
  | hangul (kind : Hangul)
  | pictograph
  | consonant
deriving DecidableEq

/-- The ranges of Control, line ends included. -/
def clusterControl : Ranges where toList :=
  [(0x0000, 0x001F), (0x007F, 0x009F), (0x00AD, 0x00AD), (0x061C, 0x061C), (0x180E, 0x180E),
   (0x200B, 0x200B), (0x200E, 0x200F), (0x2028, 0x202E), (0x2060, 0x206F), (0xFEFF, 0xFEFF),
   (0xFFF0, 0xFFFB), (0x13430, 0x1343F), (0x1BCA0, 0x1BCA3), (0x1D173, 0x1D17A),
   (0xE0000, 0xE001F), (0xE0080, 0xE00FF), (0xE01F0, 0xE0FFF)]

/-- The ranges of Prepend: signs that belong to the character after them. -/
def clusterPrepend : Ranges where toList :=
  [(0x0600, 0x0605), (0x06DD, 0x06DD), (0x070F, 0x070F), (0x0890, 0x0891), (0x08E2, 0x08E2),
   (0x0D4E, 0x0D4E), (0x110BD, 0x110BD), (0x110CD, 0x110CD), (0x111C2, 0x111C3),
   (0x113D1, 0x113D1), (0x1193F, 0x1193F), (0x11941, 0x11941), (0x11A84, 0x11A89),
   (0x11D46, 0x11D46), (0x11F02, 0x11F02)]

/-- The ranges of leading consonants of Hangul. -/
def hangulLeading : Ranges where toList := [(0x1100, 0x115F), (0xA960, 0xA97C)]

/-- The ranges of vowels of Hangul, and of the vowels of Kirat Rai that join in the same way. -/
def hangulVowel : Ranges where toList :=
  [(0x1160, 0x11A7), (0xD7B0, 0xD7C6), (0x16D63, 0x16D63), (0x16D67, 0x16D6A)]

/-- The ranges of trailing consonants of Hangul. -/
def hangulTrailing : Ranges where toList := [(0x11A8, 0x11FF), (0xD7CB, 0xD7FB)]

/-- A whole syllable of Hangul is open if it is the first in its row of 28. -/
def Hangul.of? (c : Char) : Option Hangul :=
  let n := c.toNat
  if 0xAC00 ≤ n ∧ n ≤ 0xD7A3 then
    some (if (n - 0xAC00) % 28 = 0 then openSyllable else closedSyllable)
  else if hangulLeading.contains n then some leading
  else if hangulVowel.contains n then some vowel
  else if hangulTrailing.contains n then some trailing
  else none

/-- The modifiers that colour the picture before them. -/
def isSkinTone (c : Char) : Bool := 0x1F3FB ≤ c.toNat && c.toNat ≤ 0x1F3FF

/-- The letters that spell the region of a flag, two at a time. -/
def isRegional (c : Char) : Bool := 0x1F1E6 ≤ c.toNat && c.toNat ≤ 0x1F1FF

def zeroWidthJoiner : Char := '\u200d'

def zeroWidthNonJoiner : Char := '\u200c'

def ClusterBreak.of (c : Char) : ClusterBreak :=
  if ' ' ≤ c ∧ c ≤ '~' then other
  else if c = '\r' then carriageReturn
  else if c = '\n' then lineFeed
  else if clusterControl.contains c.toNat then control
  else if c = zeroWidthJoiner then joiner
  else if isGraphemeExtend c || isSkinTone c then extend
  else if isSpacingMark c then spacingMark
  else if clusterPrepend.contains c.toNat then prepend
  else if isRegional c then regional
  else if isPictograph c then pictograph
  else if isConjunctConsonant c then consonant
  else ((Hangul.of? c).map hangul).getD other

namespace ClusterBreak

/-- Classes that never share a cluster, but for a line feed after a carriage return. -/
def standsAlone : ClusterBreak → Bool
  | carriageReturn | lineFeed | control => true
  | _ => false

/-- Classes that join whatever is before them. -/
def isMark : ClusterBreak → Bool
  | extend | joiner | spacingMark => true
  | _ => false

end ClusterBreak

/-- The letters `a` and `b` can stand in one syllable, in this order. -/
def Hangul.joins : (a b : Hangul) → Bool
  | leading, b => b ≠ trailing
  | openSyllable, b | vowel, b => b = vowel ∨ b = trailing
  | closedSyllable, b | trailing, b => b = trailing

end ChomskyChart.Unicode
