import TypedTable.Clauses
import TypedTable.Query.Basic
/-!
# Selecting rows

A `Select` asks for columns of one table, for all of them if none is named, and narrows the rows by
clauses. `Select.build` makes a `SelectQuery` of it, which knows the places of the columns that were
asked for; `SelectQuery.fetch` puts the rows that come back into instances.
-/

namespace TypedTable

/-- A request for rows of a table. -/
structure Select where
  schema : Schema
  columns : List Column := []
  clauses : Clauses := {}

/-- A request for rows that is ready to be run. -/
structure SelectQuery extends Query where
  schema : Schema
  /-- The places of the columns in a row that comes back. -/
  positions : List (Fin schema.columns.length)

namespace Select

/-- Asks for more columns. -/
def addColumns (q : Select) (columns : List Column) : Select :=
  { q with columns := q.columns ++ columns }

/-- Adds a clause. -/
def addClause (q : Select) (c : Clause) : Select := { q with clauses := q.clauses.add c }

/-- The place of a column in the table. -/
def position (s : Schema) (c : Column) : Except Error (Fin s.columns.length) :=
  match s.position? c.name with
  | some k => .ok k
  | none => .error (.selectOutside c.name s.table)

/-- The places of the columns that are asked for. -/
def positions (q : Select) : Except Error (List (Fin q.schema.columns.length)) :=
  match q.columns with
  | [] => .ok (List.finRange q.schema.columns.length)
  | columns => columns.mapM (position q.schema)

/-- The statement that selects the columns at these places. -/
def statement (s : Schema) (positions : List (Fin s.columns.length)) (tail : Tail) : Statement :=
  if positions.isEmpty then .empty
  else
    ⟨"SELECT " ++ Text.commas (positions.map fun k => (s.get k).sql) ++ " FROM " ++ s.table.sql ++
        tail.sql,
      tail.params .empty⟩

/-- Checks the request and writes the statement. -/
def build (q : Select) : Except Error SelectQuery := do
  q.clauses.check
  let positions ← q.positions
  let tail ← q.clauses.tail q.schema.table
  return ⟨⟨statement q.schema positions tail, tail.tables q.schema.table⟩, q.schema, positions⟩

end Select

/-- Runs the query and makes an instance of every row that comes back. -/
def SelectQuery.fetch {σ : Type} (q : SelectQuery) (client : Client σ) (s : σ) :
    Except Error (List Instance) × σ :=
  let (records, s) := q.records client s
  (records.bind fun rows => rows.mapM (Instance.ofRecord q.schema q.positions), s)

end TypedTable
