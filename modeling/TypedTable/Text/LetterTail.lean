import TypedTable.Text.Invisible
/-!
# Letters drawn as one

In some scripts letters that follow each other are drawn as one. A text is read from its end, and a
`LetterTail` is the part of such a group that has been read. `LetterTail.join?` is the group with
the character before it, and how many columns that one adds.

Marks may stand between the letters of a group: which ones do not end it is `isPassedBy`.
-/

namespace TypedTable.Text

/-- The end of a group of letters that may be drawn as one. -/
inductive LetterTail
  /-- Arabic alef, which joins a lam. -/
  | alef
  /-- Hebrew lamed, which a joiner ties to an alef. -/
  | lamed
  /-- Buginese ya, which a joiner ties to a vowel. -/
  | ya
  /-- Buginese ya with the vowel, which joins a second ya. -/
  | yaWithVowel
  /-- A Tifinagh consonant, which a joiner ties to another. -/
  | consonant
  /-- A Tifinagh consonant with the consonant joiner of the script. -/
  | tiedConsonant
  /-- A tone letter of Lisu that may be the second of a pair. -/
  | tone
  /-- The Old Turkic letter that a joiner ties to another. -/
  | turkic
  /-- A Khmer letter that is written below the line behind the subscript sign. -/
  | subscript
  /-- The Kirat Rai vowel e, which makes other vowels. -/
  | vowelE
  /-- The Kirat Rai vowel ai, which makes another vowel. -/
  | vowelAi
deriving DecidableEq

/-- Lam and the letters of its form. -/
def lams : CodeRanges :=
  [(0x644, 0x644), (0x6B5, 0x6B8), (0x76A, 0x76A), (0x8A6, 0x8A6), (0x8C7, 0x8C7)]

/-- Alef and the letters of its form. -/
def alefs : CodeRanges :=
  [(0x622, 0x623), (0x625, 0x625), (0x627, 0x627), (0x671, 0x673), (0x675, 0x675),
    (0x773, 0x774), (0x870, 0x882)]

/-- The Khmer letters that have a form below the line. -/
def subscripts : CodeRanges :=
  [(0x1780, 0x1782), (0x1784, 0x1787), (0x1789, 0x178C), (0x178E, 0x1793), (0x1795, 0x1798),
    (0x179B, 0x179D), (0x17A0, 0x17A0), (0x17A2, 0x17A2), (0x17A7, 0x17A7), (0x17AB, 0x17AC),
    (0x17AF, 0x17AF)]

/-- The tone letters of Lisu that are the first of a pair. -/
def firstTones : CodeRanges := [(0xA4F8, 0xA4FB)]

/-- The tone letters of Lisu that are the second of a pair. -/
def secondTones : CodeRanges := [(0xA4FC, 0xA4FD)]

/-- The consonants of Tifinagh. -/
def consonants : CodeRanges := [(0x2D31, 0x2D65), (0x2D6F, 0x2D6F)]

/-- The joiner of two characters. -/
def joiner : Char := '\u200d'

/-- The joiners and selectors that may stand between any letters. -/
def joinersAndSelectors : CodeRanges :=
  [(0x34F, 0x34F), (0x17B4, 0x17B5), (0x180B, 0x180D), (0x180F, 0x180F), (0x200D, 0x200D),
    (0xFE00, 0xFE0F), (0xE0100, 0xE01EF)]

namespace LetterTail

/-- The group that a letter ends. -/
def of? (c : Char) : Option LetterTail :=
  let n := c.toNat
  if alefs.contains c then some alef
  else if n = 0x5DC then some lamed
  else if n = 0x1A10 then some ya
  else if consonants.contains c then some consonant
  else if secondTones.contains c then some tone
  else if n = 0x10C03 then some turkic
  else if subscripts.contains c then some subscript
  else if n = 0x16D67 then some vowelE
  else if n = 0x16D68 then some vowelAi
  else none

/-- Whether marks may stand between the letters of the group. -/
def takesMarks : LetterTail → Bool
  | vowelE | vowelAi => false
  | _ => true

/-- Whether a character may stand in front of the group without ending it. -/
def isPassedBy (t : LetterTail) (c : Char) : Bool :=
  match t with
  | alef => isTransparent c
  | _ => t.takesMarks && joinersAndSelectors.contains c

/-- The columns that a character adds in front of the group, and the group with it, if the two are
drawn as one; `joined` tells whether a joiner stands between them. -/
def join? (t : LetterTail) (joined : Bool) (c : Char) : Option (Int × Option LetterTail) :=
  let n := c.toNat
  match t with
  | alef => if lams.contains c then some (0, none) else none
  | lamed => if joined && n == 0x5D0 then some (0, none) else none
  | ya => if joined && n == 0x1A17 then some (0, some yaWithVowel) else none
  | yaWithVowel => if n = 0x1A15 then some (0, none) else none
  | consonant =>
    if c = consonantJoiner then some (1, some tiedConsonant)
    else if joined && consonants.contains c then some (0, none)
    else none
  | tiedConsonant => if consonants.contains c then some (-1, none) else none
  | tone => if firstTones.contains c then some (0, none) else none
  | turkic => if joined && n == 0x10C32 then some (0, none) else none
  | subscript => if n = 0x17D2 then some (-1, none) else none
  | vowelE =>
    if n = 0x16D63 ∨ n = 0x16D69 then some (0, none)
    else if n = 0x16D67 then some (0, some vowelAi)
    else if n = 0x16D68 then some (1, some vowelE)
    else none
  | vowelAi => if n = 0x16D63 then some (0, none) else none

end LetterTail

end TypedTable.Text
