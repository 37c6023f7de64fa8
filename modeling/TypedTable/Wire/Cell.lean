import TypedTable.Value
import TypedTable.Wire.Numeric
import TypedTable.Wire.Type
/-!
# Values on the wire

`Value.encode` writes a value as a parameter of a wire type and `WireType.decode?` reads a cell of
a result. A value is only sent as its own type: no width of integer stands for another, and a
timestamp needs the type with a time zone. Null is sent as no bytes at all, whatever the type, and
an expression for the server is never sent.

Dates count days and timestamps microseconds from 1 January 2000 (`epoch`), and a cell outside the
calendar is not read.
-/

namespace TypedTable

open Wire

namespace Wire

/-- The day number of 1 January 2000, from which dates and timestamps count. -/
def epoch : Int := 730119

/-- Why a value cannot be a parameter. -/
inductive BindFault
  /-- The value is of another type. -/
  | wrongType
  /-- The value is an expression for the server. -/
  | expression (sql : String)
deriving DecidableEq

/-- What is wrong with the parameter. -/
def BindFault.message : BindFault → String
  | wrongType => "value of another type"
  | expression sql => "random expression \x60" ++ sql ++ "\x60 must be rendered inline"

/-- The bytes of a text. -/
def utf8 (s : String) : Bytes := s.toUTF8.data.toList

/-- The text with these bytes, if they are well formed. -/
def ofUtf8? (bytes : Bytes) : Option String := String.fromUTF8? ⟨bytes.toArray⟩

end Wire

/-- The bytes of a value as a parameter; none for null. -/
def Value.encode (t : WireType) : Value → Except BindFault (Option Bytes)
  | .null => .ok none
  | .random sql => .error (.expression sql)
  | .bool b => if t = .bool then .ok (some [if b then 1 else 0]) else .error .wrongType
  | .smallInt n =>
    if t = .int2 then .ok (some (signedBigEndian 2 n.toInt)) else .error .wrongType
  | .integer n =>
    if t = .int4 then .ok (some (signedBigEndian 4 n.toInt)) else .error .wrongType
  | .bigInt n =>
    if t = .int8 then .ok (some (signedBigEndian 8 n.toInt)) else .error .wrongType
  | .double x =>
    if t = .float8 then .ok (some (bigEndian 8 x.bits.toNat)) else .error .wrongType
  | .numeric d =>
    if t = .numeric then .ok (some (Groups.ofDecimal d).encode) else .error .wrongType
  | .text s => if t.isText then .ok (some (utf8 s)) else .error .wrongType
  | .date d =>
    if t = .date then .ok (some (signedBigEndian 4 (d.dayNumber - epoch))) else .error .wrongType
  | .timestamp x =>
    if t = .timestamptz then .ok (some (signedBigEndian 8 (x.micros epoch)))
    else .error .wrongType

/-- The result if the list of bytes has this length. -/
def Wire.sized (width : Nat) (bytes : Bytes) (v : Option Value) : Option Value :=
  if bytes.length = width then v else none

/-- The value of a cell that is not null, if its bytes stand for one. -/
def Wire.WireType.decode? (t : WireType) (bytes : Bytes) : Option Value :=
  match t with
  | .bool => sized 1 bytes (some (.bool (unsigned bytes != 0)))
  | .int2 => sized 2 bytes (some (.smallInt (Int16.ofInt (signed bytes))))
  | .int4 => sized 4 bytes (some (.integer (Int32.ofInt (signed bytes))))
  | .int8 => sized 8 bytes (some (.bigInt (Int64.ofInt (signed bytes))))
  | .float4 => sized 4 bytes (some (.double (.ofSingle (UInt32.ofNat (unsigned bytes)))))
  | .float8 => sized 8 bytes (some (.double ⟨UInt64.ofNat (unsigned bytes)⟩))
  | .numeric => ((Groups.decode? bytes).bind Groups.decimal?).map .numeric
  | .date => sized 4 bytes ((Date.ofDayNumber? (epoch + signed bytes)).map .date)
  | .timestamp | .timestamptz =>
    sized 8 bytes ((Timestamp.ofMicros? epoch (signed bytes)).map .timestamp)
  | .text | .varchar | .bpchar | .name => (ofUtf8? bytes).map .text
  | .other _ => none

end TypedTable
