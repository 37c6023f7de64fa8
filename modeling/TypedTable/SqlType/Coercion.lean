import TypedTable.Calendar.Form
import TypedTable.Decimal.OfDouble
import TypedTable.Decimal.Reader
import TypedTable.SqlType.Basic
import TypedTable.Value
/-!
# Bringing a value to a type

`SqlType.coerce` turns a value into the one form that its type stores, or says why there is none.
Null and a value that the server evaluates are left as they are by every type.

Numbers go through decimals: `Value.decimal?` is the exact or nearest decimal of a value that stands
for a number. An integer type drops the fraction and a numeric type rounds it; only then are the
bounds checked, so that a value is judged by what would be stored. `coerce_null` and `coerce_random`
state the exceptions.
-/

namespace TypedTable

/-- Why a type does not take a value. -/
inductive Rejection
  /-- The number that would be stored lies outside the type's bounds. -/
  | outOfRange (number : Decimal)
  /-- The value has no form in the type. -/
  | unsupported
deriving DecidableEq

/-- The texts that mean false, in lower case. All others mean true. -/
def falseTexts : List String := ["0", "f", "false"]

/-- The truth value that a value stands for: a number stands for whether it is not zero. -/
def Value.truth? : Value → Option Bool
  | .bool b => some b
  | .smallInt n => some (n != 0)
  | .integer n => some (n != 0)
  | .bigInt n => some (n != 0)
  | .double x => some !x.isZero
  | .numeric d => some !d.isZero
  | .text s => some !falseTexts.contains (String.ofList (s.toList.map Char.toLower))
  | _ => none

/-- The number that a value stands for. -/
def Value.decimal? : Value → Option Decimal
  | .bool b => some (if b then .ofInt64 1 else .zero)
  | .smallInt n => some (.ofInt64 n.toInt64)
  | .integer n => some (.ofInt64 n.toInt64)
  | .bigInt n => some (.ofInt64 n)
  | .double x => Decimal.ofDouble? x
  | .numeric d => some d
  | .text s => Decimal.ofText? s
  | _ => none

namespace SqlType

/-- Whether a number lies within the bounds of a type, if it has any. -/
def admits (t : SqlType) (d : Decimal) : Bool :=
  match t.bounds? with
  | some (low, high) => low.le d && d.le high
  | none => true

/-- The number of a value as the type would store it, within the type's bounds. -/
def number (t : SqlType) (store : Decimal → Decimal) (v : Value) : Except Rejection Decimal :=
  match v.decimal? with
  | none => .error .unsupported
  | some d => if t.admits (store d) then .ok (store d) else .error (.outOfRange (store d))

/-- A result that is there, or the answer that there is none. -/
def supported (result : Option Value) : Except Rejection Value :=
  match result with
  | some v => .ok v
  | none => .error .unsupported

/-- The day that a value stands for: a date, or a text that is one. -/
def day? : Value → Option Date
  | .date d => some d
  | .text s => Date.ofText? s
  | _ => none

/-- The timestamp that a value stands for: a timestamp, or a text that is one. -/
def instant? : Value → Option Timestamp
  | .timestamp t => some t
  | .text s => Timestamp.ofText? s
  | _ => none

/-- The value in the form that the type stores. -/
def coerce (t : SqlType) (v : Value) : Except Rejection Value :=
  match v with
  | .null => .ok .null
  | .random sql => .ok (.random sql)
  | v =>
    match t with
    | .boolean => supported (v.truth?.map .bool)
    | .smallInt | .smallSerial =>
      (t.number Decimal.truncate v).map fun d => .smallInt (Int16.ofInt d.signed)
    | .integer | .serial =>
      (t.number Decimal.truncate v).map fun d => .integer (Int32.ofInt d.signed)
    | .numeric p => (t.number (Decimal.round · p.scale) v).map .numeric
    | .date => supported ((day? v).map .date)
    | .timestampTz => supported ((instant? v).map .timestamp)
    | .varChar _ | .text => .ok (.text v.display)

@[simp] theorem coerce_null (t : SqlType) : t.coerce .null = .ok .null := rfl

@[simp] theorem coerce_random (t : SqlType) (sql : String) :
    t.coerce (.random sql) = .ok (.random sql) := rfl

end SqlType

end TypedTable
