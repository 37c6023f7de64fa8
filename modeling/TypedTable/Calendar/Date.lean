/-!
# Dates of the proleptic Gregorian calendar

A `Date` is a year, a month and a day that exists, in a year from `minYear` to `maxYear`. Years
count through zero: the year before 1 is 0, and that one is a leap year.

`Date.dayNumber` counts the days since 1 January of year 1, and `Date.ofDayNumber?` goes back: it
estimates the year by the mean length of a year, which is off by at most one, corrects it, and walks
through the months.
-/

namespace TypedTable

/-- Whether the year has 366 days. -/
def isLeapYear (year : Int) : Bool := year % 4 == 0 && (year % 100 != 0 || year % 400 == 0)

/-- The number of days of a month, counted from 1. -/
def daysInMonth (year : Int) (month : Nat) : Nat :=
  if month = 2 then (if isLeapYear year then 29 else 28)
  else if month = 4 ∨ month = 6 ∨ month = 9 ∨ month = 11 then 30
  else 31

/-- The first year of the calendar. -/
def minYear : Int := -262143

/-- The last year of the calendar. -/
def maxYear : Int := 262142

/-- A day of the calendar. -/
structure Date where
  year : Int
  /-- The month, from 1. -/
  month : Nat
  /-- The day of the month, from 1. -/
  day : Nat
  year_mem : minYear ≤ year ∧ year ≤ maxYear
  month_mem : 1 ≤ month ∧ month ≤ 12
  day_mem : 1 ≤ day ∧ day ≤ daysInMonth year month
deriving DecidableEq

namespace Date

/-- The date with this year, month and day, if there is one. -/
def of? (year : Int) (month day : Nat) : Option Date :=
  if h : (minYear ≤ year ∧ year ≤ maxYear) ∧ (1 ≤ month ∧ month ≤ 12) ∧
      (1 ≤ day ∧ day ≤ daysInMonth year month) then
    some ⟨year, month, day, h.1, h.2.1, h.2.2⟩
  else none

/-- The number of days from 1 January of year 1 to 1 January of `year`. -/
def daysBeforeYear (year : Int) : Int :=
  let y := year - 1
  365 * y + y / 4 - y / 100 + y / 400

/-- The number of days of a year before its month `month`. -/
def daysBeforeMonth (year : Int) (month : Nat) : Nat :=
  (List.range (month - 1)).foldl (fun days i => days + daysInMonth year (i + 1)) 0

/-- The number of days since 1 January of year 1. -/
def dayNumber (d : Date) : Int :=
  daysBeforeYear d.year + daysBeforeMonth d.year d.month + (d.day - 1 : Nat)

/-- The year that the day with this number lies in. The estimate by the mean length of a year,
146097 days in 400 years, is corrected by at most one. -/
def yearOfDay (n : Int) : Int :=
  let y := 400 * n / 146097 + 1
  if n < daysBeforeYear y then y - 1
  else if daysBeforeYear (y + 1) ≤ n then y + 1
  else y

/-- The month and the day in it that are `rest` days after the first day of `month`; `fuel` bounds
the number of months. -/
def monthOfDay (year : Int) : Nat → Nat → Nat → Nat × Nat
  | 0, month, rest => (month, rest + 1)
  | fuel + 1, month, rest =>
    if rest < daysInMonth year month then (month, rest + 1)
    else monthOfDay year fuel (month + 1) (rest - daysInMonth year month)

/-- The date with this day number, if its year is in the calendar. -/
def ofDayNumber? (n : Int) : Option Date :=
  let year := yearOfDay n
  let (month, day) := monthOfDay year 12 1 (n - daysBeforeYear year).toNat
  of? year month day

/-- The number of the first day of the calendar. -/
def firstDay : Int := daysBeforeYear minYear

/-- The number of the last day of the calendar. -/
def lastDay : Int := daysBeforeYear (maxYear + 1) - 1

end Date

end TypedTable
