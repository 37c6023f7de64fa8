import TypedTable.Name
import TypedTable.SqlType.Basic
/-!
# Random values from the server

A `Generator` describes an SQL expression whose value the server draws at random. Every type but the
unbounded text has one (`SqlType.generator?`), whose values lie within the type; a column that
refers to another one draws from the values that are there.

The expressions are spliced into statements, so they are built from types and names only.
-/

namespace TypedTable

/-- The two widths of integer that a drawn number is cast to. -/
inductive IntegerWidth
  | small
  | regular
deriving DecidableEq

/-- The width as a type name in SQL. -/
def IntegerWidth.name : IntegerWidth → String
  | small => "SMALLINT"
  | regular => "INTEGER"

/-- An expression whose value the server draws at random. -/
inductive Generator
  /-- A truth value. -/
  | boolean
  /-- One of `span` integers, from `low` on. -/
  | integer (span : Nat) (low : Int) (width : IntegerWidth)
  /-- A number below `bound`, cut after `scale` digits. -/
  | numeric (bound scale : Nat)
  /-- A day of the last twenty years. -/
  | date
  /-- A point in time of the last twenty years. -/
  | timestamp
  /-- The first characters of a hash. -/
  | characters (length : Nat)
  /-- A value that stands in another column. -/
  | existing (column : ColumnName)
deriving DecidableEq

/-- The time span that dates and points in time are drawn from. -/
def Generator.interval : String := "INTERVAL '20 years'"

/-- The expression as it stands in SQL. -/
def Generator.sql : Generator → String
  | boolean => "RANDOM() > 0.5"
  | integer span low width =>
    "CAST(FLOOR(RANDOM() * " ++ Text.naturalText span ++ ") " ++ (if low < 0 then "- " else "+ ") ++
      Text.naturalText low.natAbs ++ " AS " ++ width.name ++ ")"
  | numeric bound scale =>
    "TRUNC(CAST(RANDOM() * " ++ Text.naturalText bound ++ " AS NUMERIC), " ++
      Text.naturalText scale ++ ")"
  | date => "CAST(NOW() - RANDOM() * " ++ interval ++ " AS DATE)"
  | timestamp => "NOW() - RANDOM() * " ++ interval
  | characters length =>
    "SUBSTRING(MD5(CAST(RANDOM() AS TEXT)) FROM 1 FOR " ++ Text.naturalText length ++ ")"
  | existing column =>
    "(SELECT " ++ column.sql ++ " FROM " ++ column.table.sql ++ " ORDER BY RANDOM() LIMIT 1)"

/-- The generator of the integers within the bounds of a type. -/
def SqlType.integers (t : SqlType) (width : IntegerWidth) : Generator :=
  let (low, high) := t.bounds?.getD (.zero, .zero)
  .integer (high.signed - low.signed + 1).toNat low.signed width

/-- The generator of a type's values, if it has one. -/
def SqlType.generator? : SqlType → Option Generator
  | boolean => some .boolean
  | smallInt => some (smallInt.integers .small)
  | smallSerial => some (smallSerial.integers .small)
  | integer => some (integer.integers .regular)
  | serial => some (serial.integers .regular)
  | numeric p => some (.numeric (Nat.pow 10 (p.digits - p.scale)) p.scale)
  | date => some .date
  | timestampTz => some .timestamp
  | varChar l => some (.characters l.size)
  | text => none

end TypedTable
