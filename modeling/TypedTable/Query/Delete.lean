import TypedTable.Clauses
import TypedTable.Query.Basic
/-!
# Deleting rows

A `Delete` removes the rows of one table that its clauses pick; without any, all of them.
-/

namespace TypedTable

/-- A request to remove rows of a table. -/
structure Delete where
  schema : Schema
  clauses : Clauses := {}

namespace Delete

/-- Adds a clause. -/
def addClause (q : Delete) (c : Clause) : Delete := { q with clauses := q.clauses.add c }

/-- The statement that removes the rows. -/
def statement (table : TableName) (tail : Tail) : Statement :=
  ⟨"DELETE FROM " ++ table.sql ++ tail.target table ++ " RETURNING *", tail.params .empty⟩

/-- Checks the request and writes the statement. -/
def build (q : Delete) : Except Error Query := do
  q.clauses.check
  let tail ← q.clauses.tail q.schema.table
  return ⟨statement q.schema.table tail, tail.tables q.schema.table⟩

end Delete

end TypedTable
