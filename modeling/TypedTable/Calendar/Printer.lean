import TypedTable.Calendar.Timestamp
import TypedTable.Text.Digits
/-!
# The text of dates and timestamps

A date is written year, month, day with hyphens; the year has at least four digits, and a sign if it
lies outside 0 to 9999. A timestamp follows with the time, a fraction of 3, 6 or 9 digits if there
is one, and the offset in hours and minutes. A leap second is written as second 60.
-/

namespace TypedTable

open Text

/-- A year with at least four digits. -/
def yearCharacters (year : Int) : List Char :=
  if year < 0 then '-' :: padded 4 year.natAbs
  else if 9999 < year then '+' :: padded 4 year.natAbs
  else padded 4 year.natAbs

/-- A date written out. -/
def Date.characters (d : Date) : List Char :=
  yearCharacters d.year ++ '-' :: padded 2 d.month ++ '-' :: padded 2 d.day

/-- A date as a text. -/
def Date.text (d : Date) : String := String.ofList d.characters

/-- The shortest of no fraction, milliseconds, microseconds and nanoseconds that loses nothing. -/
def fractionCharacters (nano : Nat) : List Char :=
  if nano = 0 then []
  else if nano % 1000000 = 0 then '.' :: padded 3 (nano / 1000000)
  else if nano % 1000 = 0 then '.' :: padded 6 (nano / 1000)
  else '.' :: padded 9 nano

/-- A time of day written out. -/
def Clock.characters (c : Clock) : List Char :=
  let leap := c.nano / 1000000000
  padded 2 c.hour ++ ':' :: padded 2 c.minute ++ ':' :: padded 2 (c.secondOfMinute + leap) ++
    fractionCharacters (c.nano % 1000000000)

/-- An offset in hours and minutes, its seconds rounded to the nearest minute. -/
def offsetCharacters (offset : Int) : List Char :=
  let minutes := (offset.natAbs + 30) / 60
  (if offset < 0 then '-' else '+') :: padded 2 (minutes / 60) ++ ':' :: padded 2 (minutes % 60)

/-- A timestamp written out. -/
def Timestamp.characters (t : Timestamp) : List Char :=
  t.date.characters ++ ' ' :: t.clock.characters ++ offsetCharacters t.offset

/-- A timestamp as a text. -/
def Timestamp.text (t : Timestamp) : String := String.ofList t.characters

end TypedTable
