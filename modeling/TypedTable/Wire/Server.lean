import TypedTable.Client
import TypedTable.Wire.Cell
/-!
# Exchanges with a server

A `Server` declares the types of the parameters of a statement and answers it with rows of cells, or
refuses it. `Server.exchange` sends a statement to it: the text with numbered parameters first, then
the values of the parameters. All rows that come back must have the width of the result; then their
cells are read, row by row and from left to right.

`Server.client` is the server as a client that keeps nothing.
-/

namespace TypedTable.Wire

/-- What a server refuses a statement with. -/
structure Refusal where
  severity : String
  message : String
  code : String
deriving DecidableEq

/-- The severities that a refusal can have. -/
def severities : List String :=
  ["PANIC", "FATAL", "ERROR", "WARNING", "NOTICE", "DEBUG", "INFO", "LOG"]

/-- What a refusal comes down to: one of an unknown severity is not understood. -/
def Refusal.error (r : Refusal) : Error :=
  if severities.contains r.severity then .refused r.message r.code else .malformedAnswer

/-- A column of a result. -/
structure ResultColumn where
  name : String
  type : WireType
deriving DecidableEq

/-- A server that answers one kind of statement. -/
structure Server where
  parameters : List WireType
  columns : List ResultColumn
  rows : List (List (Option Bytes))
  refusal : Option Refusal := none

/-- What went over the wire. -/
structure Exchange where
  /-- The text that the server received. -/
  sql : Option String
  /-- The parameters that the server received. -/
  bound : List (Option Bytes)
  /-- The rows that were read. -/
  records : Except Error (List Record)

/-- The value of a cell in the column with this index. -/
def ResultColumn.read (c : ResultColumn) (index : Nat) (cell : Option Bytes) :
    Except Error Value :=
  match c.type with
  | .other name => .error (.cell c.name (.unsupported name))
  | t =>
    match cell with
    | none => .ok .null
    | some bytes =>
      match t.decode? bytes with
      | some v => .ok v
      | none => .error (.cell c.name (.malformed index))

/-- The values of the cells of a row. -/
def readRow (columns : List ResultColumn) (cells : List (Option Bytes)) : Except Error Record :=
  (columns.zip cells).zipIdx.mapM fun ((c, cell), index) => c.read index cell

/-- The parameters of a statement as they are sent. Fails for the first one that cannot be. -/
def encodeAll (types : List WireType) (values : List Value) : Except Error (List (Option Bytes)) :=
  (types.zip values).zipIdx.mapM fun ((t, v), index) =>
    (v.encode t).mapError fun _ => .parameter index

namespace Server

/-- The parameters that the server takes, if it takes the statement. -/
def accept (server : Server) (values : List Value) : Except Error (List (Option Bytes)) :=
  match server.refusal with
  | some r => .error r.error
  | none =>
    if server.parameters.length = values.length then encodeAll server.parameters values
    else .error (.parameterCount server.parameters.length values.length)

/-- The rows that the server answers with, read. -/
def answer (server : Server) : Except Error (List Record) :=
  if server.rows.all (·.length == server.columns.length) then
    server.rows.mapM (readRow server.columns)
  else .error .malformedAnswer

/-- Sends a statement and reads the rows that come back. A text with a NUL in it cannot be sent. -/
def exchange (server : Server) (statement : Statement) : Exchange :=
  match statement.positional with
  | .error e => ⟨none, [], .error e⟩
  | .ok p =>
    if p.sql.toList.contains '\x00' then ⟨none, [], .error .unsendable⟩
    else
      match server.accept p.values with
      | .error e => ⟨some p.sql, [], .error e⟩
      | .ok bound => ⟨some p.sql, bound, server.answer⟩

/-- The server as a client. -/
def client (server : Server) : Client Unit where
  query statement state := ((server.exchange statement).records, state)

end Server

end TypedTable.Wire
