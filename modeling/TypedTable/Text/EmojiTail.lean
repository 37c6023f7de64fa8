import TypedTable.Text.Emoji
import TypedTable.Text.LetterTail
/-!
# Emoji drawn as one

A sequence of emoji is drawn as one if joiners, skin tones or tags tie it together. A text is read
from its end, and an `EmojiTail` is the part of such a sequence that has been read.
`EmojiTail.join?` is the sequence with the character before it, and how many columns that one adds.
-/

namespace TypedTable.Text

/-- The end of a sequence of emoji. -/
inductive EmojiTail
  /-- A whole emoji. -/
  | emoji
  /-- A skin tone. -/
  | modifier
  /-- Letters of flags; whether there are two or more. -/
  | indicators (several : Bool)
  /-- A joiner with an emoji behind it, perhaps with the keycap sign in front. -/
  | joiner (keycap : Bool)
  /-- Letters of flags in front of a joiner; whether their number is even. -/
  | joinedIndicators (even : Bool)
  /-- The end of a tag in front of a joiner, with this many letters before it. -/
  | tagLetters (count : Nat)
  /-- The end of a tag with this many digits before its letters. -/
  | tagDigits (count : Nat)
deriving DecidableEq

namespace EmojiTail

/-- The sequence that a character ends. -/
def of? (c : Char) : Option EmojiTail :=
  if isIndicator c then some (indicators false)
  else if isModifier c then some modifier
  else if emojiByDefault.contains c then some emoji
  else none

/-- Whether a joiner may stand in front of the sequence. -/
def takesJoiner : EmojiTail → Bool
  | emoji | modifier | indicators true | joinedIndicators true => true
  | _ => false

/-- Whether the flag that tags belong to may stand in front of the sequence. -/
def takesFlag : EmojiTail → Bool
  | tagLetters count => 3 ≤ count
  | tagDigits count => count == 3
  | _ => false

/-- The columns that a character adds in front of a joiner, and the sequence with it. -/
def joinJoiner? (c : Char) : Option (Int × EmojiTail) :=
  let n := c.toNat
  if n = 0x20E3 then some (0, joiner true)
  else if isIndicator c then some (1, joinedIndicators false)
  else if isModifier c then some (0, modifier)
  else if n = 0xE007F then some (0, tagLetters 0)
  else if emojiByDefault.contains c then some (0, emoji)
  else none

/-- The columns that a character adds in front of the sequence, and the sequence with it, if the two
are drawn as one. Of the letters of flags in front of a joiner, each pair is a part of the
sequence. -/
def join? (t : EmojiTail) (c : Char) : Option (Int × EmojiTail) :=
  if c = Text.joiner && t.takesJoiner then some (0, joiner false)
  else if c.toNat = 0x1F3F4 && t.takesFlag then some (0, emoji)
  else
    match t with
    | modifier => if modifiable.contains c then some (0, emoji) else none
    | indicators _ => if isIndicator c then some (1, indicators true) else none
    | joiner false => joinJoiner? c
    | joinedIndicators even =>
      if isIndicator c then some (if even then 3 else -1, joinedIndicators !even) else none
    | tagLetters count =>
      if isTagLetter c && count < 6 then some (0, tagLetters (count + 1))
      else if isTagDigit c && count < 5 then some (0, tagDigits 1)
      else none
    | tagDigits count =>
      if isTagDigit c && count < 3 then some (0, tagDigits (count + 1)) else none
    | _ => none

end EmojiTail

end TypedTable.Text
