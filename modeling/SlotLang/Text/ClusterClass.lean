import SlotLang.Text.Conjunct
import SlotLang.Text.Extender
import SlotLang.Text.Pictograph
import SlotLang.Text.SpacingMark

/-!
# How a character joins its neighbours

What a reader takes for one character can be a cluster of several: a letter with its marks, a
syllable, a flag, a family of emoji. Every character belongs to one class, and the classes of two
neighbours, with what stands before them, decide whether they belong together.
-/

namespace SlotLang.Text

/-- The part a character plays in a cluster. -/
inductive ClusterClass where
  | carriageReturn
  | lineFeed
  /-- Stands alone. -/
  | control
  /-- Extends what is before it and links consonants. -/
  | linker
  /-- Extends what is before it. -/
  | extender
  /-- Extends what is before it and ties a pictograph after it. -/
  | joiner
  /-- Extends what is before it, but not a conjunct. -/
  | nonJoiner
  /-- Belongs to what is before it. -/
  | spacingMark
  /-- Belongs to what is after it. -/
  | leading
  /-- One half of a flag. -/
  | regional
  | pictograph
  /-- A consonant that forms conjuncts. -/
  | consonant
  /-- A leading consonant of a Hangul syllable. -/
  | hangulL
  /-- A vowel of a Hangul syllable. -/
  | hangulV
  /-- A trailing consonant of a Hangul syllable. -/
  | hangulT
  /-- A Hangul syllable without a trailing consonant. -/
  | hangulLV
  /-- A Hangul syllable with a trailing consonant. -/
  | hangulLVT
  | other
  deriving DecidableEq

namespace ClusterClass

/-- Controls and other code points that stand alone, the line ends aside. -/
def controls : List (Nat × Nat) := [
  (0x0, 0x1f), (0x7f, 0x9f), (0xad, 0xad), (0x61c, 0x61c), (0x180e, 0x180e), (0x200b, 0x200b),
  (0x200e, 0x200f), (0x2028, 0x202e), (0x2060, 0x206f), (0xfeff, 0xfeff), (0xfff0, 0xfffb),
  (0x13430, 0x1343f), (0x1bca0, 0x1bca3), (0x1d173, 0x1d17a), (0xe0000, 0xe001f),
  (0xe0080, 0xe00ff), (0xe01f0, 0xe0fff)]

/-- Code points that belong to what is after them. -/
def leadingMarks : List (Nat × Nat) := [
  (0x600, 0x605), (0x6dd, 0x6dd), (0x70f, 0x70f), (0x890, 0x891), (0x8e2, 0x8e2), (0xd4e, 0xd4e),
  (0x110bd, 0x110bd), (0x110cd, 0x110cd), (0x111c2, 0x111c3), (0x113d1, 0x113d1),
  (0x1193f, 0x1193f), (0x11941, 0x11941), (0x11a84, 0x11a89), (0x11d46, 0x11d46),
  (0x11f02, 0x11f02)]

/-- Vowels of Hangul syllables, and those of a script that joins its letters alike. -/
def hangulVowels : List (Nat × Nat) :=
  [(0x1160, 0x11a7), (0xd7b0, 0xd7c6), (0x16d63, 0x16d63), (0x16d67, 0x16d6a)]

/-- The class of a Hangul letter or syllable, if the code point is one. -/
def hangul? (n : Nat) : Option ClusterClass :=
  if inRanges n [(0x1100, 0x115f), (0xa960, 0xa97c)] then some hangulL
  else if inRanges n hangulVowels then some hangulV
  else if inRanges n [(0x11a8, 0x11ff), (0xd7cb, 0xd7fb)] then some hangulT
  else if inRanges n [(0xac00, 0xd7a3)] then
    some (if (n - 0xac00) % 28 = 0 then hangulLV else hangulLVT)
  else none

/-- Whether a code point changes the skin tone of a pictograph. -/
def isSkinTone (n : Nat) : Bool :=
  0x1f3fb ≤ n && n ≤ 0x1f3ff

/-- The class of a code point from U+0080 on that does not stand alone. -/
def ofCodePoint (n : Nat) : ClusterClass :=
  if n = 0x200c then nonJoiner
  else if n = 0x200d then joiner
  else if conjunctLinkers.contains n then linker
  else if extenders.contains n || isSkinTone n then extender
  else if spacingMarks.contains n then spacingMark
  else if inRanges n leadingMarks then leading
  else if inRanges n [(0x1f1e6, 0x1f1ff)] then regional
  else if pictographs.contains n then pictograph
  else if conjunctConsonants.contains n then consonant
  else (hangul? n).getD other

/-- The class of a character. -/
def of (c : Char) : ClusterClass :=
  let n := c.toNat
  if c = '\r' then carriageReturn
  else if c = '\n' then lineFeed
  else if inRanges n controls then control
  else if n < 0x80 then other
  else ofCodePoint n

/-- Whether a character of the class always ends the cluster before it and its own. -/
def standsAlone : ClusterClass → Bool
  | carriageReturn | lineFeed | control => true
  | _ => false

/-- Whether a character of the class joins any character before it that does not stand alone. -/
def joinsAny : ClusterClass → Bool
  | linker | extender | joiner | nonJoiner | spacingMark => true
  | _ => false

/-- Whether a character of the class may stand between the parts of a conjunct. -/
def staysInConjunct : ClusterClass → Bool
  | linker | extender | joiner => true
  | _ => false

/-- Whether a character of the class may stand between a pictograph and the joiner after it. -/
def staysInPicture : ClusterClass → Bool
  | linker | extender | nonJoiner => true
  | _ => false

/-- Whether two Hangul classes form part of a syllable. -/
def formSyllable : ClusterClass → ClusterClass → Bool
  | hangulL, hangulL | hangulL, hangulV | hangulL, hangulLV | hangulL, hangulLVT => true
  | hangulLV, hangulV | hangulLV, hangulT | hangulV, hangulV | hangulV, hangulT => true
  | hangulLVT, hangulT | hangulT, hangulT => true
  | _, _ => false

end ClusterClass

end SlotLang.Text
