/-!
# Types on the wire

The types that parameters and result columns are declared with. Each has a binary form of its own;
a type without a reader here is kept by its name.
-/

namespace TypedTable.Wire

/-- A type of a parameter or of a result column. -/
inductive WireType
  | bool
  | int2
  | int4
  | int8
  | float4
  | float8
  | numeric
  | date
  | timestamp
  | timestamptz
  | text
  | varchar
  | bpchar
  | name
  | other (name : String)
deriving DecidableEq

/-- The types that can be read, under their names. -/
def WireType.named : List (String × WireType) :=
  [("bool", bool), ("int2", int2), ("int4", int4), ("int8", int8), ("float4", float4),
    ("float8", float8), ("numeric", numeric), ("date", date), ("timestamp", timestamp),
    ("timestamptz", timestamptz), ("text", text), ("varchar", varchar), ("bpchar", bpchar),
    ("name", name)]

/-- The type with this name. The type of arrays of a type has an underscore in front of its name. -/
def WireType.ofName (s : String) : WireType :=
  match named.lookup s with
  | some t => t
  | none =>
    match s.toList.reverse with
    | ']' :: '[' :: element => other ("_" ++ String.ofList element.reverse)
    | _ => other s

/-- Whether the binary form is the text itself. -/
def WireType.isText : WireType → Bool
  | text | varchar | bpchar | name => true
  | _ => false

end TypedTable.Wire
