import TypedTable.Calendar.Timestamp
import TypedTable.Text.Blank
import TypedTable.Text.Digits
/-!
# Patterns of dates and times

A pattern is a list of items, each of which reads some characters from the front of a text and may
set one part of a `Reading`. A text has a pattern if the items read it to its end
(`Pattern.match?`); `Reading.date?` and `Reading.timestamp?` then check that the parts name a day
and a point in time that exist.

A loose number skips blanks and takes as many digits as are there, up to the width of its part; a
loose year may have a sign, and then any number of digits. A fixed number has exactly the digits of
its part.
-/

namespace TypedTable.Calendar

/-- A part of a date or time that is written as a number. -/
inductive Part
  | year | month | day | hour | minute | second
deriving DecidableEq

/-- The number of digits of a part. -/
def Part.width : Part → Nat
  | .year => 4
  | _ => 2

/-- What has been read of a date and time. -/
structure Reading where
  year : Int := 0
  month : Nat := 0
  day : Nat := 0
  hour : Nat := 0
  minute : Nat := 0
  second : Nat := 0
  nano : Nat := 0
  offset : Int := 0
deriving DecidableEq

/-- The reading with one part set. -/
def Reading.set (r : Reading) : Part → Int → Reading
  | .year, n => { r with year := n }
  | .month, n => { r with month := n.toNat }
  | .day, n => { r with day := n.toNat }
  | .hour, n => { r with hour := n.toNat }
  | .minute, n => { r with minute := n.toNat }
  | .second, n => { r with second := n.toNat }

/-- One item of a pattern. -/
inductive Item
  /-- A number after any blanks. -/
  | loose (part : Part)
  /-- A number with all its digits. -/
  | fixed (part : Part)
  /-- One of these characters. -/
  | oneOf (choices : List Char)
  /-- Any number of blanks, also none. -/
  | blanks
  /-- A point and digits, or nothing; digits behind the ninth are skipped. -/
  | fraction
  /-- An offset from UTC such as `+02:00`, or `Z`. A loose one may follow blanks, leave out the
  minutes, and have any colons and blanks in front of them. -/
  | offset (strict : Bool)
deriving DecidableEq

/-- A pattern of a date and time. -/
abbrev Pattern := List Item

/-- The digits at the front of a text, at most `width`, and what follows them. -/
def splitDigits (width : Nat) (cs : List Char) : List Char × List Char :=
  let digits := (cs.take width).takeWhile Char.isDigit
  (digits, cs.drop digits.length)

/-- A number of at most `width` digits at the front of a text, and what follows it. -/
def number? (width : Nat) (cs : List Char) : Option (Nat × List Char) :=
  let (digits, rest) := splitDigits width cs
  if digits.isEmpty then none else some (Nat.ofDigitChars 10 digits 0, rest)

/-- A number of exactly `width` digits at the front of a text, and what follows it. -/
def exactNumber? (width : Nat) (cs : List Char) : Option (Nat × List Char) :=
  let (digits, rest) := splitDigits width cs
  if digits.length = width then some (Nat.ofDigitChars 10 digits 0, rest) else none

/-- A loose number at the front of a text that has no blanks there. -/
def looseNumber? (part : Part) (cs : List Char) : Option (Int × List Char) :=
  match part, cs with
  | .year, '-' :: rest => (number? rest.length rest).map fun (n, rest) => (-(n : Int), rest)
  | .year, '+' :: rest => (number? rest.length rest).map fun (n, rest) => ((n : Int), rest)
  | part, cs => (number? part.width cs).map fun (n, rest) => ((n : Int), rest)

/-- Nine digits of a fraction of a second as nanoseconds, and what follows all its digits. -/
def nanoseconds? (cs : List Char) : Option (Nat × List Char) :=
  let (digits, rest) := splitDigits 9 cs
  if digits.isEmpty then none
  else
    some (Nat.ofDigitChars 10 digits 0 * Nat.pow 10 (9 - digits.length),
      rest.dropWhile Char.isDigit)

/-- The sign of an offset: whether it is to the west. A minus may be the hyphen or U+2212. -/
def sign? : List Char → Option (Bool × List Char)
  | '+' :: rest => some (false, rest)
  | '-' :: rest => some (true, rest)
  | '\u2212' :: rest => some (true, rest)
  | _ => none

/-- The minutes of an offset; a loose one may lack them at the end of the text. -/
def offsetMinutes? (strict : Bool) (cs : List Char) : Option (Nat × List Char) :=
  if strict then
    match cs with
    | ':' :: rest => exactNumber? 2 rest
    | _ => none
  else
    match cs.dropWhile fun c => c == ':' || Text.isBlank c with
    | [] => some (0, [])
    | rest => exactNumber? 2 rest

/-- An offset in seconds at the front of a text, and what follows it. -/
def offset? (strict : Bool) (cs : List Char) : Option (Int × List Char) := do
  match if strict then cs else Text.dropBlanks cs with
  | 'Z' :: rest => some (0, rest)
  | 'z' :: rest => some (0, rest)
  | cs =>
    let (west, cs) ← sign? cs
    let (hours, cs) ← exactNumber? 2 cs
    let (minutes, cs) ← offsetMinutes? strict cs
    if 60 ≤ minutes then none
    else
      let seconds : Int := (hours * 60 + minutes) * 60
      some (if west then -seconds else seconds, cs)

/-- Reads one item. -/
def Item.read? (r : Reading) (cs : List Char) : Item → Option (Reading × List Char)
  | .loose part =>
    (looseNumber? part (Text.dropBlanks cs)).map fun (n, rest) => (r.set part n, rest)
  | .fixed part => (exactNumber? part.width cs).map fun (n, rest) => (r.set part n, rest)
  | .oneOf choices =>
    match cs with
    | c :: rest => if choices.contains c then some (r, rest) else none
    | [] => none
  | .blanks => some (r, Text.dropBlanks cs)
  | .fraction =>
    match cs with
    | '.' :: rest => (nanoseconds? rest).map fun (n, rest) => ({ r with nano := n }, rest)
    | _ => some (r, cs)
  | .offset strict => (offset? strict cs).map fun (n, rest) => ({ r with offset := n }, rest)

/-- Reads the items one after the other. -/
def Pattern.read? (r : Reading) (cs : List Char) : Pattern → Option (Reading × List Char)
  | [] => some (r, cs)
  | item :: items => (item.read? r cs).bind fun (r, rest) => Pattern.read? r rest items

/-- The reading of a text that has the pattern. -/
def Pattern.match? (p : Pattern) (cs : List Char) : Option Reading :=
  match p.read? {} cs with
  | some (r, []) => some r
  | _ => none

/-- The day that was read, if it exists. -/
def Reading.date? (r : Reading) : Option Date := Date.of? r.year r.month r.day

/-- The time of day that was read, if it exists. The second 60 is a leap second. -/
def Reading.clock? (r : Reading) : Option Clock :=
  if r.second = 60 then Clock.of? r.hour r.minute 59 (r.nano + 1000000000)
  else Clock.of? r.hour r.minute r.second r.nano

/-- The timestamp that was read, if it exists. A part of the time that the pattern lacks is zero. -/
def Reading.timestamp? (r : Reading) : Option Timestamp := do
  Timestamp.of? (← r.date?) (← r.clock?) r.offset

end TypedTable.Calendar
