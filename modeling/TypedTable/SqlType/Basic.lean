import TypedTable.Decimal.Basic
import TypedTable.Text.Digits
/-!
# Column types

A `SqlType` is the type of a column with its parameters. `SqlType.ofPrecision` and
`SqlType.ofLength` make the types that have some; the conditions on the parameters are part of the
type, so every `SqlType` is one that can be declared.

`SqlType.name` is the type in a declaration, and `SqlType.bounds?` the least and the greatest number
of a type of numbers.
-/

namespace TypedTable

/-- The most digits that a numeric type can have. -/
def maxPrecision : Nat := 28

/-- The digits of a numeric type: how many in all, and how many behind the point. -/
structure Precision where
  digits : Nat
  scale : Nat
  digits_mem : 0 < digits ∧ digits ≤ maxPrecision
  scale_le : scale ≤ digits
deriving DecidableEq

/-- The length of a text type: positive. -/
structure Length where
  size : Nat
  size_pos : 0 < size
deriving DecidableEq

/-- The type of a column. -/
inductive SqlType
  | boolean
  | smallInt
  | integer
  /-- A small integer that counts up from a sequence. -/
  | smallSerial
  /-- An integer that counts up from a sequence. -/
  | serial
  | numeric (precision : Precision)
  | date
  | timestampTz
  | varChar (length : Length)
  | text
deriving DecidableEq

/-- Why the parameters of a type are refused. -/
inductive TypeFault
  | zeroPrecision
  | precisionBelowScale (precision scale : Nat)
  | precisionTooLarge
  | zeroLength
deriving DecidableEq

/-- What is wrong with the type. -/
def TypeFault.message : TypeFault → String
  | zeroPrecision => "NUMERIC precision must be positive"
  | precisionBelowScale precision scale =>
    "NUMERIC precision (" ++ Text.naturalText precision ++ ") cannot be less than scale (" ++
      Text.naturalText scale ++ ")"
  | precisionTooLarge =>
    "NUMERIC precision above " ++ Text.naturalText maxPrecision ++ " is not supported"
  | zeroLength => "VARCHAR length must be positive"

namespace SqlType

/-- The type of numbers with `precision` digits, `scale` of them behind the point. -/
def ofPrecision (precision scale : Nat) : Except TypeFault SqlType :=
  if hpos : precision = 0 then .error .zeroPrecision
  else if hscale : precision < scale then .error (.precisionBelowScale precision scale)
  else if hmax : maxPrecision < precision then .error .precisionTooLarge
  else .ok (numeric ⟨precision, scale, by omega, by omega⟩)

/-- The type of texts of a declared length. -/
def ofLength (length : Nat) : Except TypeFault SqlType :=
  if h : length = 0 then .error .zeroLength else .ok (varChar ⟨length, by omega⟩)

/-- The type as it stands in a declaration. -/
def name : SqlType → String
  | boolean => "BOOLEAN"
  | smallInt => "SMALLINT"
  | integer => "INTEGER"
  | smallSerial => "SMALLSERIAL"
  | serial => "SERIAL"
  | numeric p =>
    "NUMERIC(" ++ Text.naturalText p.digits ++ ", " ++ Text.naturalText p.scale ++ ")"
  | date => "DATE"
  | timestampTz => "TIMESTAMP WITH TIME ZONE"
  | varChar l => "VARCHAR(" ++ Text.naturalText l.size ++ ")"
  | text => "TEXT"

end SqlType

/-- The greatest number of a numeric type: all digits nine. -/
def Precision.greatest (p : Precision) : Decimal :=
  .ofParts false (Nat.pow 10 p.digits - 1) p.scale
    (by
      have h : Nat.pow 10 p.digits ≤ Nat.pow 10 maxPrecision :=
        Nat.pow_le_pow_right (by decide) p.digits_mem.2
      have := Decimal.limit_eq
      have : Nat.pow 10 maxPrecision = 10000000000000000000000000000 := by decide
      omega)
    (Nat.le_trans p.scale_le p.digits_mem.2)

namespace SqlType

/-- The least and the greatest number of a type of numbers. -/
def bounds? : SqlType → Option (Decimal × Decimal)
  | smallInt => some (.ofInt64 (-32768), .ofInt64 32767)
  | integer => some (.ofInt64 (-2147483648), .ofInt64 2147483647)
  | smallSerial => some (.zero, .ofInt64 32767)
  | serial => some (.zero, .ofInt64 2147483647)
  | numeric p => some (p.greatest.negate, p.greatest)
  | _ => none

/-- Whether the values are integers. -/
def isInteger : SqlType → Bool
  | smallInt | integer | smallSerial | serial => true
  | _ => false

/-- Whether the values come from a sequence if none is given. -/
def isSerial : SqlType → Bool
  | smallSerial | serial => true
  | _ => false

/-- Whether the values are texts. -/
def isText : SqlType → Bool
  | varChar _ | text => true
  | _ => false

end SqlType

end TypedTable
