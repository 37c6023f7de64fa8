import TypedTable.Query.Basic
import TypedTable.Query.Insert.BackFill
import TypedTable.Text.Separated
/-!
# Inserting rows

An `Insert` writes rows to one table. `Insert.build` checks all values and writes the statement;
`InsertQuery.execute` runs it and takes over what was written (`TypedTable.Query.Insert.BackFill`).
A row that comes back and does not fit is an error, and then no row is changed.

A column whose slot is unset and that has no default is left to the server. What its computed
defaults give while an insertion is built is part of the request.
-/

namespace TypedTable

/-- A request to write rows to a table. -/
structure Insert where
  schema : Schema
  rows : List Instance
  policy : ConflictPolicy := .doNothing
  evaluations : Batch.Evaluations := {}

/-- A request to write rows that is ready to be run. -/
structure InsertQuery extends Query where
  schema : Schema
  rows : List Instance
  policy : ConflictPolicy

/-- What is written to one column of one row. -/
inductive InsertCell
  /-- Nothing is given, and the server takes its default. -/
  | absent
  | bound (name : String) (v : Value)
  /-- A value that the server evaluates. -/
  | random (sql : String)
deriving DecidableEq

namespace InsertCell

/-- The name under which a value is bound. -/
def boundName (c : Column) (row : Nat) : String :=
  c.table.table.text ++ "_" ++ c.ident.text ++ "_" ++ Text.naturalText row

/-- The cell of a column in the row with this number. -/
def ofSlot (row : Nat) (c : Column) (e : Evaluation) (slot : Option Value) :
    Except Error InsertCell :=
  match Batch.written c e slot with
  | none => .ok absent
  | some v =>
    match c.validate v with
    | .error violation => .error (.violation violation)
    | .ok (.random sql) => .ok (random sql)
    | .ok w => .ok (bound (boundName c row) w)

/-- The cell as it stands in SQL. -/
def sql : InsertCell → String
  | absent => "DEFAULT"
  | bound name _ => ":" ++ name
  | random sql => sql

/-- Parameters to which that of the cell is added. -/
def addTo (before : Params) : InsertCell → Params
  | bound name v => before.insert name v
  | absent | random _ => before

end InsertCell

namespace Insert

/-- The request with the choice whether rows replace those that are there. -/
def upsert (q : Insert) (replace : Bool) : Insert :=
  { q with policy := if replace then .upsert else .doNothing }

/-- The request with a policy for keys that are in the table already. -/
def onConflict (q : Insert) (policy : ConflictPolicy) : Insert := { q with policy := policy }

/-- The rows with their numbers and what the computed defaults give for them. -/
def batch (q : Insert) : List Batch.Entry := Batch.entries q.evaluations q.rows

/-- The cells of one row. -/
def cells (s : Schema) (row : Batch.Entry) : Except Error (List InsertCell) :=
  (List.finRange s.columns.length).mapM fun (k : Fin s.columns.length) =>
    InsertCell.ofSlot row.number (s.get k) row.bound (row.row.slot k)

/-- A row of cells as it stands in SQL. -/
def tuple (cells : List InsertCell) : String :=
  "(" ++ Text.commas (cells.map InsertCell.sql) ++ ")"

/-- What the statement says about keys that are in the table already. -/
def conflict (s : Schema) : ConflictPolicy → String
  | .doNothing =>
    if s.hasPrimaryKey then " ON CONFLICT (" ++ s.keyList ++ ") DO NOTHING"
    else " ON CONFLICT DO NOTHING"
  | .upsert =>
    " ON CONFLICT (" ++ s.keyList ++ ") DO UPDATE SET " ++
      Text.commas (s.columns.map fun c => c.ident.sql ++ " = EXCLUDED." ++ c.ident.sql)

/-- The statement that writes rows of cells. -/
def statement (s : Schema) (policy : ConflictPolicy) (rows : List (List InsertCell)) : Statement :=
  ⟨"INSERT INTO " ++ s.table.sql ++ " (" ++ s.columnList ++ ") VALUES " ++
      Text.commas (rows.map tuple) ++ conflict s policy ++ " RETURNING " ++ s.columnList,
    rows.flatten.foldl InsertCell.addTo .empty⟩

/-- An error if a row belongs to another declaration. -/
def checkRows (q : Insert) : Except Error Unit :=
  match q.rows.find? (!·.isOf q.schema) with
  | some stranger => .error (.insertForeign stranger.schema.table q.schema.table)
  | none => .ok ()

/-- An error if rows cannot be told apart by keys and are to replace others. -/
def checkPolicy (q : Insert) : Except Error Unit :=
  if q.policy = .upsert ∧ !q.schema.hasPrimaryKey then .error (.upsertWithoutKey q.schema.table)
  else .ok ()

/-- The statement that writes the rows. It is empty if there is nothing to write. -/
def render (q : Insert) : Except Error Statement :=
  if q.rows.isEmpty || q.schema.columns.isEmpty then .ok .empty
  else
    ((Batch.sent q.schema q.policy q.batch).mapM (cells q.schema)).map
      (statement q.schema q.policy)

/-- Checks the request and writes the statement. -/
def build (q : Insert) : Except Error InsertQuery := do
  q.checkRows
  q.checkPolicy
  let statement ← q.render
  return ⟨⟨statement, [q.schema.table]⟩, q.schema, q.rows, q.policy⟩

end Insert

namespace InsertQuery

/-- The query after rows came back: its rows hold what was written. -/
def backFill (q : InsertQuery) (records : List Record) : Except Error InsertQuery := do
  let positions := List.finRange q.schema.columns.length
  let returned ← records.mapM (Instance.ofRecord q.schema positions)
  return { q with rows := BackFill.rows q.schema q.policy q.rows returned }

/-- Runs the query. Gives the number of rows that were written and the query with its rows filled;
after an error the rows are as they were. -/
def execute {σ : Type} (q : InsertQuery) (client : Client σ) (s : σ) :
    Except Error (Nat × InsertQuery) × σ :=
  let (records, s) := q.records client s
  (records.bind fun rows => (q.backFill rows).map (rows.length, ·), s)

end InsertQuery

namespace Schema

/-- A row whose values are to be drawn by the server. A column that counts up and refers to no other
one is left to its sequence. -/
def randomRow (s : Schema) : Except Error Instance :=
  s.columns.foldlM (fun i c =>
    if c.type.isSerial && c.foreignKey.isNone then .ok i
    else do i.set c.ident.text (.random (← c.generator).sql)) (.new s)

/-- Writes `count` rows whose values the server draws, and gives them as they were written. -/
def random {σ : Type} (s : Schema) (count : Nat) (e : Batch.Evaluations) (client : Client σ)
    (state : σ) : Except Error (List Instance) × σ :=
  let built := do
    let rows ← (List.replicate count ()).mapM fun _ => s.randomRow
    Insert.build { schema := s, rows := rows, evaluations := e }
  match built with
  | .error e => (.error e, state)
  | .ok q =>
    let (result, state) := q.execute client state
    (result.map fun r => r.2.rows, state)

end Schema

end TypedTable
