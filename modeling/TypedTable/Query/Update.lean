import TypedTable.Clauses
import TypedTable.Query.Basic
/-!
# Updating rows

An `Update` sets columns of the rows of one table that its clauses pick. Of two values for a column
the last one counts, at the place of the first. `Update.build` checks the values and writes the
statement.

A value is bound under the name of the table and the column; the number at the end of the names that
filters bind keeps the two apart.
-/

namespace TypedTable

/-- A request to change rows of a table. -/
structure Update where
  schema : Schema
  /-- The columns to be set, in the order in which they were first named. -/
  sets : List (String × Value) := []
  clauses : Clauses := {}

/-- A column with what it is set to. -/
inductive Assignment
  | bound (column : Column) (v : Value)
  /-- A value that the server evaluates. -/
  | random (column : Column) (sql : String)
deriving DecidableEq

namespace Assignment

/-- The name under which the value of a column is bound. -/
def boundName (column : Column) : String := column.table.table.text ++ "_" ++ column.ident.text

/-- The assignment as it stands in SQL. -/
def sql : Assignment → String
  | bound column _ => column.ident.sql ++ " = :" ++ boundName column
  | random column sql => column.ident.sql ++ " = " ++ sql

/-- Parameters to which that of the assignment is added. -/
def addTo (before : Params) : Assignment → Params
  | bound column v => before.insert (boundName column) v
  | random _ _ => before

end Assignment

namespace Update

/-- Sets a name in a list of names and values, at its place or else at the end. -/
def setEntry (name : String) (v : Value) : List (String × Value) → List (String × Value)
  | [] => [(name, v)]
  | (k, w) :: rest => if k = name then (k, v) :: rest else (k, w) :: setEntry name v rest

/-- Sets a column. -/
def set (q : Update) (column : String) (v : Value) : Update :=
  { q with sets := setEntry column v q.sets }

/-- Adds a clause. -/
def addClause (q : Update) (c : Clause) : Update := { q with clauses := q.clauses.add c }

/-- An error if no column is set. -/
def checkSets (q : Update) : Except Error Unit :=
  if q.sets.isEmpty then .error (.emptyUpdate q.schema.table) else .ok ()

/-- The assignment of a value to a column, if the column takes it. -/
def assignment (s : Schema) (set : String × Value) : Except Error Assignment := do
  let c ← s.column set.1
  match ← (c.validate set.2).mapError .violation with
  | .random sql => return .random c sql
  | v => return .bound c v

/-- The statement that makes the assignments. -/
def statement (table : TableName) (assignments : List Assignment) (tail : Tail) : Statement :=
  ⟨"UPDATE " ++ table.sql ++ " SET " ++ Text.commas (assignments.map Assignment.sql) ++
      tail.target table ++ " RETURNING *",
    tail.params (assignments.foldl Assignment.addTo .empty)⟩

/-- Checks the request and writes the statement. -/
def build (q : Update) : Except Error Query := do
  q.clauses.check
  q.checkSets
  let assignments ← q.sets.mapM (assignment q.schema)
  let tail ← q.clauses.tail q.schema.table
  return ⟨statement q.schema.table assignments tail, tail.tables q.schema.table⟩

end Update

end TypedTable
