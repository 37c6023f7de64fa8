import TypedTable.Calendar.Printer
import TypedTable.Decimal.Printer
import TypedTable.Double.Shortest
/-!
# Cell values

A `Value` is the content of one cell of a table, or SQL text that the server evaluates to a content
(`Value.random`). Equality of terms (`=`) tells every form apart; `Value.same` is the equality that
keys are compared with: it goes by the number of a decimal, the point in time of a timestamp and the
comparison of binary floating-point numbers.
-/

namespace TypedTable

/-- The content of one cell. -/
inductive Value
  | null
  | bool (b : Bool)
  | smallInt (n : Int16)
  | integer (n : Int32)
  | bigInt (n : Int64)
  | double (x : Double)
  | numeric (d : Decimal)
  | text (s : String)
  | date (d : Date)
  | timestamp (t : Timestamp)
  /-- SQL text to be evaluated by the server. It is spliced into a statement, never bound. -/
  | random (sql : String)
deriving DecidableEq

namespace Value

/-- Whether the cell is empty. -/
def isNull : Value → Bool
  | null => true
  | _ => false

/-- The SQL text of a value that the server evaluates. -/
def random? : Value → Option String
  | random sql => some sql
  | _ => none

/-- The truth value of a boolean. -/
def bool? : Value → Option Bool
  | bool b => some b
  | _ => none

/-- The number of an integer of any width. -/
def integer? : Value → Option Int
  | smallInt n => some n.toInt
  | integer n => some n.toInt
  | bigInt n => some n.toInt
  | _ => none

/-- The number of a decimal. -/
def numeric? : Value → Option Decimal
  | numeric d => some d
  | _ => none

/-- The characters of a text. -/
def text? : Value → Option String
  | text s => some s
  | _ => none

/-- The day of a date. -/
def date? : Value → Option Date
  | date d => some d
  | _ => none

/-- The timestamp of a timestamp. -/
def timestamp? : Value → Option Timestamp
  | timestamp t => some t
  | _ => none

/-- Whether two values are the same content. Values of different kinds never are. -/
def same : Value → Value → Bool
  | double x, double y => x.same y
  | numeric a, numeric b => a.same b
  | timestamp a, timestamp b => a.same b
  | a, b => a = b

/-- The value written out, as in a message or a rendered table. -/
def display : Value → String
  | null => "NULL"
  | bool true => "true"
  | bool false => "false"
  | smallInt n => Text.integerText n.toInt
  | integer n => Text.integerText n.toInt
  | bigInt n => Text.integerText n.toInt
  | double x => x.text
  | numeric d => d.text
  | text s => s
  | date d => d.text
  | timestamp t => t.text
  | random sql => sql

end Value

end TypedTable
