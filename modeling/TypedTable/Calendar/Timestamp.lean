import TypedTable.Calendar.Date
/-!
# Points in time with an offset

A `Timestamp` is a local date and time of day together with the offset of the local time from UTC,
in seconds to the east. A `Clock` counts the seconds since midnight and the nanoseconds since then;
in the last second of a minute there may be up to two seconds' worth of nanoseconds, which is a leap
second.

The point in time itself is `Timestamp.utcSecond` (seconds since the start of year 1 in UTC) with
the nanoseconds of the clock. Its day has to be in the calendar. `Timestamp.same` compares points in
time, whatever their offsets.
-/

namespace TypedTable

/-- A time of day. -/
structure Clock where
  /-- Whole seconds since midnight. -/
  second : Nat
  /-- Nanoseconds since that second; from a thousand million on, a leap second. -/
  nano : Nat
  second_lt : second < 86400
  nano_lt : nano < 1000000000 ∨ (second % 60 = 59 ∧ nano < 2000000000)
deriving DecidableEq

namespace Clock

/-- The time of day at an hour, minute, second and nanosecond, if there is one. -/
def of? (hour minute second nano : Nat) : Option Clock :=
  let s := (hour * 60 + minute) * 60 + second
  if h : hour < 24 ∧ minute < 60 ∧ second < 60 ∧
      (nano < 1000000000 ∨ (second = 59 ∧ nano < 2000000000)) then
    some ⟨s, nano, by omega, by omega⟩
  else none

/-- The start of the day. -/
def midnight : Clock := ⟨0, 0, by decide, by decide⟩

def hour (c : Clock) : Nat := c.second / 3600
def minute (c : Clock) : Nat := c.second / 60 % 60

/-- The second of the minute, without a leap second. -/
def secondOfMinute (c : Clock) : Nat := c.second % 60

end Clock

/-- A local date and time and its offset from UTC. -/
structure Timestamp where
  date : Date
  clock : Clock
  /-- Seconds that the local time is ahead of UTC. -/
  offset : Int
  offset_mem : -86400 < offset ∧ offset < 86400
  utc_mem : Date.firstDay ≤ (date.dayNumber * 86400 + clock.second - offset) / 86400 ∧
    (date.dayNumber * 86400 + clock.second - offset) / 86400 ≤ Date.lastDay
deriving DecidableEq

namespace Timestamp

/-- The timestamp at a local date and time and an offset, if the offset is less than a day and the
date in UTC is in the calendar. -/
def of? (date : Date) (clock : Clock) (offset : Int) : Option Timestamp :=
  if h : (-86400 < offset ∧ offset < 86400) ∧
      (Date.firstDay ≤ (date.dayNumber * 86400 + clock.second - offset) / 86400 ∧
        (date.dayNumber * 86400 + clock.second - offset) / 86400 ≤ Date.lastDay) then
    some ⟨date, clock, offset, h.1, h.2⟩
  else none

/-- Seconds since the start of year 1 in UTC, without a leap second. -/
def utcSecond (t : Timestamp) : Int := t.date.dayNumber * 86400 + t.clock.second - t.offset

/-- Whether two timestamps are the same point in time. -/
def same (a b : Timestamp) : Bool := a.utcSecond == b.utcSecond && a.clock.nano == b.clock.nano

/-- The timestamp in UTC that is `micros` microseconds after the start of day number `epoch`, if
that is in the calendar. -/
def ofMicros? (epoch micros : Int) : Option Timestamp := do
  let second := epoch * 86400 + micros / 1000000
  let date ← Date.ofDayNumber? (second / 86400)
  let s := (second % 86400).toNat
  let clock ← Clock.of? (s / 3600) (s / 60 % 60) (s % 60) ((micros % 1000000).toNat * 1000)
  of? date clock 0

/-- The number of whole microseconds since the start of day number `epoch` in UTC, with the part of
a microsecond cut off towards that start. -/
def micros (t : Timestamp) (epoch : Int) : Int :=
  ((t.utcSecond - epoch * 86400) * 1000000000 + t.clock.nano).tdiv 1000

end Timestamp

end TypedTable
