import TypedTable.Toml.Scalar
/-!
# Quoted texts

A text stands in double quotes, with escapes, or in single quotes, without; either mark once, for a
text on one line, or three times, for one on several lines. `Quoting.read` reads the text behind the
opening mark, one character at a time.

A text on several lines loses a line break right at its beginning, and what a backslash at the end
of a line is followed by up to the next visible character. It may end in one or two marks of its
own, which stand before the closing ones.
-/

namespace TypedTable.Toml

/-- How a text is quoted. -/
structure Quoting where
  mark : Char
  escapes : Bool
  lines : Bool

/-- What the characters of a text that were read so far say about the next one. -/
inductive QuoteState
  /-- Right behind the mark of a text on several lines. -/
  | opening
  | openingReturn
  | body
  /-- Behind a carriage return, which only a line feed may follow. -/
  | return
  /-- Behind so many marks in a text on several lines. -/
  | marks (n : Nat)
  | escape
  /-- Inside a code point: the digits that are missing, and the value so far. -/
  | code (left value : Nat)
  /-- Behind a backslash and blanks, at the end of a line. -/
  | continuation
  /-- Between the end of such a line and the next visible character. -/
  | folded
  | foldedReturn

/-- What becomes of a character. -/
inductive Move
  /-- Goes on in a state, with characters of the text. -/
  | go (s : QuoteState) (out : List Char)
  /-- Ends the text with characters; whether the character is part of it. -/
  | stop (out : List Char) (consumed : Bool)
  | fail

/-- Whether a character may stand for itself. -/
def isPlain (c : Char) : Bool := c = '\t' || (0x20 ≤ c.toNat && c.toNat ≠ 0x7F)

/-- The character with this code point, if there is one. -/
def ofCode? (n : Nat) : Option Char := if n.isValidChar then some (Char.ofNat n) else none

namespace Quoting

/-- What a backslash and a letter stand for. -/
def escaped (q : Quoting) (c : Char) : Move :=
  match c with
  | 'b' => .go .body ['\x08']
  | 't' => .go .body ['\t']
  | 'n' => .go .body ['\n']
  | 'f' => .go .body ['\x0c']
  | 'r' => .go .body ['\r']
  | 'e' => .go .body ['\x1b']
  | '"' => .go .body ['"']
  | '\\' => .go .body ['\\']
  | 'x' => .go (.code 2 0) []
  | 'u' => .go (.code 4 0) []
  | 'U' => .go (.code 8 0) []
  | ' ' | '\t' => if q.lines then .go .continuation [] else .fail
  | '\n' => if q.lines then .go .folded [] else .fail
  | '\r' => if q.lines then .go .foldedReturn [] else .fail
  | _ => .fail

/-- Reads a character of the text itself. -/
def plain (q : Quoting) (c : Char) : Move :=
  if c = q.mark then if q.lines then .go (.marks 1) [] else .stop [] true
  else if q.escapes && c = '\\' then .go .escape []
  else if q.lines && c = '\n' then .go .body ['\n']
  else if q.lines && c = '\r' then .go .return []
  else if isPlain c then .go .body [c]
  else .fail

/-- Reads a character behind so many marks. -/
def afterMarks (q : Quoting) (n : Nat) (c : Char) : Move :=
  if c = q.mark then if n < 5 then .go (.marks (n + 1)) [] else .fail
  else if 3 ≤ n then .stop (List.replicate (n - 3) q.mark) false
  else
    match q.plain c with
    | .go s out => .go s (List.replicate n q.mark ++ out)
    | move => move

/-- Reads a digit of a code point. -/
def codeDigit (left value : Nat) (c : Char) : Move :=
  match hexDigit? c with
  | none => .fail
  | some d =>
    if left ≤ 1 then
      match ofCode? (value * 16 + d) with
      | some c => .go .body [c]
      | none => .fail
    else .go (.code (left - 1) (value * 16 + d)) []

/-- Reads a line feed, the only character that may come, and goes on in a state. -/
def lineFeed (s : QuoteState) (out : List Char) (c : Char) : Move :=
  if c = '\n' then .go s out else .fail

/-- Reads one character. -/
def step (q : Quoting) : QuoteState → Char → Move
  | .opening, '\n' => .go .body []
  | .opening, '\r' => .go .openingReturn []
  | .opening, c => q.plain c
  | .openingReturn, c => lineFeed .body [] c
  | .body, c => q.plain c
  | .return, c => lineFeed .body ['\r', '\n'] c
  | .marks n, c => q.afterMarks n c
  | .escape, c => q.escaped c
  | .code left value, c => codeDigit left value c
  | .continuation, c =>
    if c = ' ' || c = '\t' then .go .continuation []
    else if c = '\r' then .go .foldedReturn []
    else lineFeed .folded [] c
  | .folded, c =>
    if c = ' ' || c = '\t' || c = '\n' then .go .folded []
    else if c = '\r' then .go .foldedReturn []
    else q.plain c
  | .foldedReturn, c => lineFeed .folded [] c

/-- The end of a text that the end of the document closes. -/
def atEnd (q : Quoting) : QuoteState → Option (List Char)
  | .marks n => if 3 ≤ n then some (List.replicate (n - 3) q.mark) else none
  | _ => none

/-- The characters of a text that is read from a state on, and what follows it. -/
def run (q : Quoting) : QuoteState → List Char → Option (List Char × List Char)
  | s, [] => (q.atEnd s).map (·, [])
  | s, c :: rest =>
    match q.step s c with
    | .go s out => (q.run s rest).map fun r => (out ++ r.1, r.2)
    | .stop out true => some (out, rest)
    | .stop out false => some (out, c :: rest)
    | .fail => none

/-- The text behind the opening marks, and what follows it. -/
def read (q : Quoting) (cs : List Char) : Option (String × List Char) :=
  (q.run (if q.lines then .opening else .body) cs).map fun r => (String.ofList r.1, r.2)

end Quoting

/-- A quoted text on one line at the front of a text, if there is one. -/
def lineText? : List Char → Option (String × List Char)
  | '"' :: rest => Quoting.read ⟨'"', true, false⟩ rest
  | '\'' :: rest => Quoting.read ⟨'\'', false, false⟩ rest
  | _ => none

/-- A quoted text at the front of a text, if there is one. -/
def text? : List Char → Option (String × List Char)
  | '"' :: '"' :: '"' :: rest => Quoting.read ⟨'"', true, true⟩ rest
  | '\'' :: '\'' :: '\'' :: rest => Quoting.read ⟨'\'', false, true⟩ rest
  | cs => lineText? cs

end TypedTable.Toml
