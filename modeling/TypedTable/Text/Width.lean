import TypedTable.Text.EmojiTail
import TypedTable.Text.Wide
/-!
# Width on a terminal

`width` is the number of columns that a line takes on a terminal with a fixed-width font. A
character takes one column, a wide one two, an invisible one none, and controls count as one.

Some characters are drawn together with what stands behind them: letters of some scripts, emoji, and
whatever a selector gives another form. So the text is read from its end, and a `Behind` keeps what
the next character may join.
-/

namespace TypedTable.Text

/-- What stands behind a character, as far as the character may join it. -/
inductive Tail
  | nothing
  /-- Letters; whether a joiner stands in front of them. -/
  | letters (tail : LetterTail) (joined : Bool)
  | emoji (tail : EmojiTail)
deriving DecidableEq

/-- A character that gives the one before it another form. -/
inductive Selector
  /-- The form of an emoji. -/
  | emoji
  /-- The form of a letter. -/
  | text
  /-- The wide form of a quotation mark. -/
  | wide
deriving DecidableEq

/-- What has been read of a text from its end. -/
structure Behind where
  tail : Tail
  /-- The selector in front of the tail. -/
  selector : Option Selector := none
deriving DecidableEq

/-- The width of a character that joins nothing. -/
def characterWidth (c : Char) : Nat :=
  let n := c.toNat
  if n = 0x17D8 then 3
  else if n = 0x17A4 then 2
  else if isInvisible c then 0
  else if wide.contains c then 2
  else 1

/-- The selector that a character is. -/
def Selector.of? (c : Char) : Option Selector :=
  if c = '\ufe0f' then some emoji
  else if c = '\ufe0e' then some text
  else if c = '\ufe01' then some wide
  else none

/-- Whether a selector applies to a character. -/
def Selector.appliesTo (s : Selector) (c : Char) : Bool :=
  match s with
  | emoji => emojiBySelector.contains c
  | text => textBySelector.contains c
  | wide => ['\u2018', '\u2019', '\u201c', '\u201d'].contains c

namespace Tail

/-- What a character is for the one before it. -/
def of (c : Char) : Tail :=
  match EmojiTail.of? c, LetterTail.of? c with
  | some t, _ => emoji t
  | none, some t => letters t false
  | none, none => nothing

/-- The columns that a character adds in front of the tail, and what it is together with the tail,
if the two are drawn as one or the character does not count. -/
def join? (t : Tail) (c : Char) : Option (Int × Tail) :=
  match t with
  | nothing => none
  | letters l joined =>
    if l.isPassedBy c then some (0, letters l (joined || c == joiner))
    else (l.join? joined c).map fun (w, l) => (w, l.elim nothing (letters · false))
  | emoji e => (e.join? c).map fun (w, e) => (w, emoji e)

/-- What is left of the tail when a selector that does not apply stands in front of it. -/
def lettersOnly : Tail → Tail
  | letters l joined => if l.takesMarks then letters l joined else nothing
  | _ => nothing

/-- What is left of the tail with a selector in front of it: only the selector for emoji stays
between an emoji and its joiner. -/
def behindSelector (s : Selector) (t : Tail) : Tail :=
  match s, t with
  | .emoji, emoji (.joiner keycap) => emoji (.joiner keycap)
  | _, t => t.lettersOnly

/-- The columns that a character adds in front of the tail, and what stands behind the next one. -/
def extend (t : Tail) (c : Char) : Int × Behind :=
  match Selector.of? c with
  | some s => (0, ⟨t.behindSelector s, some s⟩)
  | none =>
    let (w, tail) := (t.join? c).getD (characterWidth c, of c)
    (w, ⟨tail, none⟩)

end Tail

/-- The columns and the tail of a character in the form that a selector gives it. -/
def Selector.form (s : Selector) (t : Tail) : Int × Tail :=
  match s, t with
  | emoji, .emoji (.joiner _) => (0, .emoji .emoji)
  | emoji, _ => (2, .emoji .emoji)
  | text, _ => (1, .nothing)
  | wide, _ => (2, .nothing)

/-- The columns that a character adds, and what stands behind the next one. -/
def Behind.extend (b : Behind) (c : Char) : Int × Behind :=
  match b.selector with
  | none => b.tail.extend c
  | some s =>
    if s.appliesTo c then
      let (w, tail) := s.form b.tail
      (w, ⟨tail, none⟩)
    else b.tail.lettersOnly.extend c

/-- Reads a text from its end: the columns that it takes and what stands at its start. -/
def scan (cs : List Char) : Int × Behind :=
  cs.foldr (fun c (w, b) => let (added, b) := b.extend c; (w + added, b)) (0, ⟨.nothing, none⟩)

/-- The number of columns that a text takes. -/
def width (cs : List Char) : Nat := (scan cs).1.toNat

end TypedTable.Text
