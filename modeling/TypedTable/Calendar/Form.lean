import TypedTable.Calendar.Pattern
/-!
# The accepted forms of dates and timestamps

A date is written year, month, day with hyphens. A timestamp has eight forms, tried in this order:
the strict form with `T` and an offset, a loose form with an offset with and without a fraction, a
loose form without offset (then in UTC) with `T` or a space, with and without a fraction, and a
date alone, which means its midnight in UTC.
-/

namespace TypedTable.Calendar

/-- Year, month and day with hyphens, loosely. -/
def datePattern : Pattern :=
  [.loose .year, .oneOf ['-'], .loose .month, .oneOf ['-'], .loose .day]

/-- Hour, minute and second with colons, loosely. -/
def clockPattern : Pattern :=
  [.loose .hour, .oneOf [':'], .loose .minute, .oneOf [':'], .loose .second]

/-- The internet form of a timestamp: all digits there, `T` or a space in the middle, and an
offset. -/
def strictPattern : Pattern :=
  [.fixed .year, .oneOf ['-'], .fixed .month, .oneOf ['-'], .fixed .day, .oneOf ['T', 't', ' '],
    .fixed .hour, .oneOf [':'], .fixed .minute, .oneOf [':'], .fixed .second, .fraction,
    .offset true]

/-- The forms of a timestamp in the order in which they are tried. -/
def timestampPatterns : List Pattern :=
  [strictPattern,
    datePattern ++ .blanks :: clockPattern ++ [.fraction, .offset false],
    datePattern ++ .blanks :: clockPattern ++ [.offset false],
    datePattern ++ .oneOf ['T'] :: clockPattern ++ [.fraction],
    datePattern ++ .blanks :: clockPattern ++ [.fraction],
    datePattern ++ .oneOf ['T'] :: clockPattern,
    datePattern ++ .blanks :: clockPattern,
    datePattern]

/-- Reads a timestamp in one form. -/
def readAs? (p : Pattern) (cs : List Char) : Option Timestamp :=
  (p.match? cs).bind Reading.timestamp?

end TypedTable.Calendar

namespace TypedTable

/-- Reads a date, with blanks around it. -/
def Date.ofText? (s : String) : Option Date :=
  (Calendar.Pattern.match? Calendar.datePattern (Text.trim s.toList)).bind Calendar.Reading.date?

/-- Reads a timestamp, with blanks around it: the first form that gives one. -/
def Timestamp.ofText? (s : String) : Option Timestamp :=
  let cs := Text.trim s.toList
  Calendar.timestampPatterns.findSome? (Calendar.readAs? · cs)

end TypedTable
